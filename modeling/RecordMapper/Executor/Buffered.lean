import RecordMapper.Executor.Cursor

/-!
# Buffered cursors

A cursor over rows that were fetched up front. A row that could not be converted is kept in place
and reported by `scan` for that row only. An error that stopped the fetch is reported by `advance`,
once, when the fetched rows are used up.
-/

namespace RecordMapper

/-- Why a fetched row has no values: the column that could not be converted and the reason. -/
structure RowFailure where
  column : String
  reason : String
deriving DecidableEq

/-- A fetched row. -/
abbrev FetchedRow := Except RowFailure (List Value)

/-- A cursor over fetched rows. -/
structure BufferedCursor where
  rows : List FetchedRow
  current : Option FetchedRow := none
  position : Nat := 0
  trailing : Option Error := none
  closed : Bool := false

namespace BufferedCursor

/-- A cursor before the first of the given rows, with an error to report after the last. -/
def ofRows (rows : List FetchedRow) (trailing : Option Error) : BufferedCursor :=
  { rows := rows, trailing := trailing }

def advance (c : BufferedCursor) : Except Error Bool × BufferedCursor :=
  if c.closed then (.ok false, c)
  else
    match c.rows with
    | row :: rows =>
      (.ok true, { c with rows := rows, current := some row, position := c.position + 1 })
    | [] =>
      match c.trailing with
      | some e => (.error e, { c with current := none, trailing := none })
      | none => (.ok false, { c with current := none })

def scan (c : BufferedCursor) : Except Error (List Value) × BufferedCursor :=
  match c.current with
  | some (.ok values) => (.ok values, c)
  | some (.error f) => (.error (.scan c.position f.column (.reported f.reason)), c)
  | none => (.error (.executor .noCurrentRow), c)

/-- Drops the rows and any error not yet reported. -/
def close (c : BufferedCursor) : Except Error Unit × BufferedCursor :=
  (.ok (), { c with rows := [], current := none, trailing := none, closed := true })

theorem length_rows_advance (c c' : BufferedCursor) (h : c.advance = (.ok true, c')) :
    c'.rows.length < c.rows.length := by
  unfold advance at h
  split at h
  · cases h
  · split at h
    · rename_i heq
      cases h
      simp [heq]
    · split at h <;> cases h

theorem scan_snd (c : BufferedCursor) : c.scan.2 = c := by
  unfold scan
  split <;> rfl

instance : Cursor BufferedCursor where
  advance := advance
  scan := scan
  close := close
  remaining c := c.rows.length
  remaining_advance := length_rows_advance
  remaining_scan c := by simp [scan_snd]

end BufferedCursor

end RecordMapper
