import RecordMapper.Executor.Basic
import RecordMapper.Executor.Buffered

/-!
# Scripted executors

An executor that answers each call from a list prepared in advance, whatever the statement. When
the list is used up a statement affects no rows and a query has none. Its cursors can be told to
fail when they are closed.
-/

namespace RecordMapper

/-- A buffered cursor whose `close` may fail. -/
structure ScriptedCursor where
  buffer : BufferedCursor
  closeError : Option Error

namespace ScriptedCursor

instance : Cursor ScriptedCursor where
  advance c := let (r, b) := c.buffer.advance; (r, { c with buffer := b })
  scan c := let (r, b) := c.buffer.scan; (r, { c with buffer := b })
  close c :=
    let (r, b) := c.buffer.close
    (match c.closeError with
      | some e => .error e
      | none => r, { c with buffer := b })
  remaining c := c.buffer.rows.length
  remaining_advance c c' h := by
    cases h' : c.buffer.advance with
    | mk r b =>
      rw [h'] at h
      cases h
      exact BufferedCursor.length_rows_advance _ _ h'
  remaining_scan c := by simp [BufferedCursor.scan_snd]

end ScriptedCursor

/-- The answers still to be given. -/
structure Script where
  execs : List (Except Error Int)
  queries : List (Except Error ScriptedCursor)

namespace Script

/-- Takes the next answer to a statement. -/
def nextExec (s : Script) : Except Error Int × Script :=
  match s.execs with
  | [] => (.ok 0, s)
  | r :: rs => (r, { s with execs := rs })

/-- Takes the next answer to a query. -/
def nextQuery (s : Script) : Except Error ScriptedCursor × Script :=
  match s.queries with
  | [] => (.ok ⟨.ofRows [] none, none⟩, s)
  | r :: rs => (r, { s with queries := rs })

/-- The executor that follows a script. -/
def executor : Executor Script ScriptedCursor where
  exec _ _ s := s.nextExec
  query _ _ s := s.nextQuery

end Script

end RecordMapper
