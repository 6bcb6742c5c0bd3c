import RecordMapper.Store.Plan
import RecordMapper.Store.ResultSet

/-!
# Runs of plans

A plan is run with the cells of its parameters. It yields rows and the database afterwards, or fails
and changes no table.
-/

namespace RecordMapper.Store.Plan

/-- The cell of an operand. -/
def cell (params : List Cell) : Operand → Cell
  | .param i => params.getD i .null
  | .constant c => c

/-- The row passes every test. -/
def passes (params : List Cell) (ts : List (Test Key)) (row : List Cell) : Bool :=
  ts.all fun t => t.comparison.holds (t.column.cell row) (cell params t.operand)

/-- The row of a table that has the given cells in the given columns and null elsewhere. Of several
cells for one column the first is taken. -/
def rowOf (t : Table) (targets : List Nat) (cells : List Cell) : List Cell :=
  (targets.zip cells).foldr (fun x row => row.set x.1 x.2) (t.columns.map fun _ => .null)

/-- The order of two rows, numbered by their place, by one key. -/
def keyOrder (k : SortKey Key) (a b : List Cell × Nat) : Ordering :=
  let o :=
    match k.column with
    | .place => compare a.2 b.2
    | c => (c.cell a.1).order (c.cell b.1)
  if k.descending then o.swap else o

/-- The order of two rows by the first key in which they differ. -/
def rowOrder (ks : List (SortKey Key)) (a b : List Cell × Nat) : Ordering :=
  ks.foldr (fun k o => (keyOrder k a b).then o) .eq

/-- The rows in order; rows that no key tells apart stay in the order of insertion. -/
def sort (ks : List (SortKey Key)) (rows : List (List Cell)) : List (List Cell) :=
  (rows.zipIdx.mergeSort fun a b => rowOrder ks a b != .gt).map (·.1)

/-- At most as many rows as the limit says; a negative limit is none. -/
def limited (params : List Cell) (limit? : Option Operand) (rows : List (List Cell)) :
    Except StorageFault (List (List Cell)) :=
  match limit? with
  | none => .ok rows
  | some x =>
    match (cell params x).toInteger? with
    | some n => .ok (if n.val < 0 then rows else rows.take n.val.toNat)
    | none => .error .mismatch

/-- The plan changes the database. -/
def changes : Plan → Bool
  | .create .. => true
  | .insert .. => true
  | .update .. => true
  | .delete .. => true
  | _ => false

/-- The plan counts the rows that it affects. -/
def counts : Plan → Bool
  | .create .. => false
  | p => p.changes

/-- Runs a plan: the rows it yields and the database afterwards. -/
def run (params : List Cell) (db : Database) : Plan → Except StorageFault (ResultSet × Database)
  | .create t => .ok ({}, { db with tables := db.tables ++ [t] })
  | .nothing => .ok ({}, db)
  | .insert t targets rows => do
    let rows := rows.map fun r => rowOf t targets (r.map (cell params))
    return ({}, db.replace (← t.withRows (t.rows ++ rows)) rows.length)
  | .update t sets ts => do
    let change (row : List Cell) : List Cell :=
      sets.foldl (fun row s => row.set s.1 (cell params s.2)) row
    let rows := t.rows.map fun row => if passes params ts row then change row else row
    return ({}, db.replace (← t.withRows rows) (t.rows.filter (passes params ts)).length)
  | .delete t ts =>
    let (gone, rest) := t.rows.partition (passes params ts)
    .ok ({}, db.replace { t with rows := rest } gone.length)
  | .select t outputs ts keys limit? => do
    let rows ← limited params limit? (sort keys (t.rows.filter (passes params ts)))
    let rows := rows.map fun row => outputs.map fun o => o.2.cell row
    return ({ columns := outputs.map (·.1), rows := rows }, db)
  | .count t ts =>
    let n := (t.rows.filter (passes params ts)).length
    .ok ({ columns := ["COUNT(*)"], rows := [[.integer (.clamp .i64 n)]] }, db)
  | .values names rows =>
    .ok ({ columns := names, rows := rows.map fun r => r.map (cell params) }, db)

end RecordMapper.Store.Plan
