import RecordMapper.Executor.Cursor
import RecordMapper.Log

/-!
# Executors

An executor runs finished statements. It has a state of its own, and every query opens a cursor
over the resulting rows.
-/

namespace RecordMapper

/-- Runs statements on a state of type `σ`; queries open cursors of type `κ`. -/
structure Executor (σ κ : Type) where
  /-- Runs a statement that returns no rows and tells how many it affected. -/
  exec : String → List Value → σ → Except Error Int × σ
  /-- Runs a statement and opens a cursor over its rows. -/
  query : String → List Value → σ → Except Error κ × σ
  /-- What is logged about a cursor that was opened. -/
  notes : κ → List LogEntry := fun _ => []

end RecordMapper
