import RecordMapper.Store.Database

/-!
# Plans

A command is prepared against the tables of a database, which looks up every name in it. What cannot
be found is reported with its place in the statement where that place is known.
-/

namespace RecordMapper.Store

/-- What a name in a query stands for: a column of a row, the place of the row in the order of
insertion, or a text. -/
inductive Key where
  | column (i : Nat)
  | place
  | text (s : String)

/-- What a key stands for in a row, where the row's place is not asked for. -/
def Key.cell (row : List Cell) : Key → Cell
  | .column i => row.getD i .null
  | .text s => .text (Text.Utf8.encode s)
  | .place => .null

/-- A command whose names have been looked up. -/
inductive Plan where
  | create (table : Table)
  | nothing
  | insert (table : Table) (targets : List Nat) (rows : List (List Operand))
  | update (table : Table) (sets : List (Nat × Operand)) (tests : List (Test Key))
  | delete (table : Table) (tests : List (Test Key))
  | select (table : Table) (outputs : List (String × Key)) (tests : List (Test Key))
      (keys : List (SortKey Key)) (limit? : Option Operand)
  | count (table : Table) (tests : List (Test Key))
  | values (names : List String) (rows : List (List Operand))

namespace Plan

/-- The most columns that a table or a result may have. -/
def widest : Nat := 2000

/-- The names of the place of a row, which a column of the same name hides. -/
def placeNames : List String := ["rowid", "oid", "_rowid_"]

section Names

variable (sql : String) (t : Table)

/-- What a name stands for in the text of a statement. -/
def key (n : Name) : Except StorageFault Key :=
  match t.column? n.text with
  | some i => .ok (.column i)
  | none =>
    if n.mayBeText then .ok (.text n.text)
    else .error (.badName (.noSuchColumn n.text) sql n.offset)

/-- The tests with their names looked up. -/
def tests (ts : List (Test Name)) : Except StorageFault (List (Test Key)) :=
  ts.mapM fun x => do return ⟨← key sql t x.column, x.comparison, x.operand⟩

/-- A column of a result, with its name in the table if it has one there. -/
def output (n : Name) : Except StorageFault (String × Key) := do
  match ← key sql t n with
  | .column i => return (t.columns.getD i "", .column i)
  | k => return (n.source, k)

/-- A key of an ordering, which may also be the place of a row. -/
def sortKey (k : SortKey Name) : Except StorageFault (SortKey Key) :=
  if (t.column? k.column.text).isNone && placeNames.any (sameName k.column.text) then
    .ok ⟨.place, k.descending⟩
  else (key sql t k.column).map fun c => ⟨c, k.descending⟩

/-- The column that a value is inserted into. -/
def insertTarget (n : Name) : Except StorageFault Nat :=
  match t.column? n.text with
  | some i => .ok i
  | none => .error (.noColumnNamed t.name n.text)

/-- The column that a value is assigned to. -/
def updateTarget (n : Name) : Except StorageFault Nat :=
  match t.column? n.text with
  | some i => .ok i
  | none => .error (.noSuchTarget n.text)

/-- The column of a uniqueness rule. -/
def uniqueColumn (n : Name) : Except StorageFault Nat :=
  match t.column? n.text with
  | some i => .ok i
  | none => .error (.badName (.noSuchColumn n.text) sql n.offset)

end Names

/-- The first name that stands for the same column as one before it. -/
def repeated? (before : List String) : List String → Option String
  | [] => none
  | c :: cs => if before.any (sameName c) then some c else repeated? (c :: before) cs

/-- A new table. -/
def newTable (sql name : String) (columns : List String) (unique : List Name) :
    Except StorageFault Table := do
  if (name.toLower).startsWith "sqlite_" then throw (.reservedName name)
  match repeated? [] columns with
  | some c => throw (.repeatedColumn c)
  | none =>
    if widest < columns.length then throw (.tooManyTableColumns name)
    let t : Table := ⟨name, columns, [], []⟩
    return { t with unique := ← unique.mapM (uniqueColumn sql t) }

/-- Looks up the names of a command, which was read from the text of a statement. -/
def ofCommand (db : Database) (sql : String) : Command Name → Except StorageFault Plan
  | .create name ifMissing columns unique =>
    match db.table? name.text with
    | some _ =>
      if ifMissing then .ok .nothing
      else .error (.badName (.tableExists name.source) sql name.offset)
    | none => return .create (← newTable sql name.text columns unique)
  | .insert name columns? rows => do
    let t ← db.table name
    let values := (rows.headD []).length
    match columns? with
    | none =>
      if values ≠ t.columns.length then throw (.valueCount name t.columns.length values)
      return .insert t (List.range t.columns.length) rows
    | some names =>
      let targets ← names.mapM (insertTarget { t with name := name })
      if values ≠ targets.length then throw (.namedValueCount targets.length values)
      return .insert t targets rows
  | .update name sets ts => do
    let t ← db.table name
    let sets ← sets.mapM fun s => do return (← updateTarget t s.1, s.2)
    return .update t sets (← tests sql t ts)
  | .delete name ts => do
    let t ← db.table name
    return .delete t (← tests sql t ts)
  | .select name outputs ts keys limit? => do
    let t ← db.table name
    if widest < outputs.length then throw .tooManyResultColumns
    let outputs ← outputs.mapM (output sql t)
    return .select t outputs (← tests sql t ts) (← keys.mapM (sortKey sql t)) limit?
  | .count name ts => do
    let t ← db.table name
    return .count t (← tests sql t ts)
  | .values names rows =>
    if widest < names.length then .error .tooManyResultColumns else .ok (.values names rows)

end Plan

end RecordMapper.Store
