import RecordMapper.Store.Command

/-!
# Databases

A database is a list of tables, each with its rows in the order of insertion. Tables and columns are
found by their names.
-/

namespace RecordMapper.Store

/-- A table: its columns, those whose cells must differ, and its rows. -/
structure Table where
  name : String
  columns : List String
  unique : List Nat
  rows : List (List Cell)

/-- The tables, and how many rows the last change affected. -/
structure Database where
  tables : List Table := []
  changes : Nat := 0
  /-- The file of the database holds something else, which shows when a command needs a table. -/
  foreign : Bool := false
  /-- Why no command may change the database. -/
  refusal : Option StorageFault := none

namespace Table

/-- The position of a column. -/
def column? (t : Table) (name : String) : Option Nat :=
  t.columns.findIdx? (sameName name)

/-- Two rows have equal cells, other than null, in a column. -/
def clash (i : Nat) (a b : List Cell) : Bool :=
  let x := a.getD i .null
  !x.isNull && x.order (b.getD i .null) == .eq

/-- The first column that must have different cells and has equal ones in a row and some of the
others. -/
def clashIn? (t : Table) (row : List Cell) (others : List (List Cell)) : Option Nat :=
  t.unique.find? fun i => others.any (clash i row)

/-- The first such column among some rows, each compared with those before it. -/
def clash? (t : Table) (before : List (List Cell)) : List (List Cell) → Option Nat
  | [] => none
  | row :: rows =>
    match t.clashIn? row before with
    | some i => some i
    | none => clash? t (row :: before) rows

/-- The table with new rows, unless two of them have equal cells where they must differ. -/
def withRows (t : Table) (rows : List (List Cell)) : Except StorageFault Table :=
  match t.clash? [] rows with
  | some i => .error (.notUnique t.name (t.columns.getD i ""))
  | none => .ok { t with rows := rows }

end Table

namespace Database

def table? (db : Database) (name : String) : Option Table :=
  db.tables.find? fun t => sameName t.name name

/-- The table with a name, or the fault that it is missing. -/
def table (db : Database) (name : String) : Except StorageFault Table :=
  match db.table? name with
  | some t => .ok t
  | none => .error (.noSuchTable name)

/-- The database with a table replaced by one of the same name. -/
def replace (db : Database) (t : Table) (changes : Nat) : Database :=
  { db with
    tables := db.tables.map fun u => if sameName u.name t.name then t else u
    changes := changes }

end Database

end RecordMapper.Store
