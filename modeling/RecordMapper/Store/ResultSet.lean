import RecordMapper.Executor.Buffered
import RecordMapper.Store.Cell

/-!
# Result sets

What a query of the store yields: named columns, rows of cells, and perhaps a fault that ended the
rows early. The rows are fetched into a buffered cursor, where a row with a cell that cannot be
read fails alone, at its leftmost such cell.
-/

namespace RecordMapper

/-- The outcome of a query. -/
structure ResultSet where
  columns : List String := []
  rows : List (List Cell) := []
  /-- The fault that stopped the query after these rows. -/
  stop : Option StorageFault := none

namespace ResultSet

/-- The values of a row of cells; the first cell that cannot be read is reported with its column. -/
def convertRow : List String → List Cell → FetchedRow
  | name :: names, cell :: cells =>
    match cell.toValue with
    | .error reason => .error ⟨name, reason⟩
    | .ok v => (convertRow names cells).map (v :: ·)
  | _, _ => .ok []

/-- The cursor over the fetched rows. -/
def cursor (r : ResultSet) : BufferedCursor :=
  .ofRows (r.rows.map (convertRow r.columns)) (r.stop.map .storage)

end ResultSet

end RecordMapper
