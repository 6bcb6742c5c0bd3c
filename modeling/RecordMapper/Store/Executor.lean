import RecordMapper.Store.Parser
import RecordMapper.Store.Plan.Run
import RecordMapper.Store.StorageEngine

/-!
# The store as an executor

The storage engine of databases: a statement is read, its names are looked up, its parameters are
bound from left to right and it is run.
-/

namespace RecordMapper.Store

/-- The cells of parameters numbered from `index`, of which `needed` are expected in all. A value
that cannot be bound is reported when its turn comes, and so is the first value too many. -/
def bindFrom (needed index : Nat) : List Value → Except StorageFault (List Cell)
  | [] => if index = needed then .ok [] else .error (.parameterCount index needed)
  | v :: vs =>
    if needed ≤ index then .error (.parameterCount (index + 1) needed)
    else
      match Cell.ofValue v with
      | .error cause => .error (.unbindable cause)
      | .ok c => (bindFrom needed (index + 1) vs).map (c.kept :: ·)

/-- The cells of the parameters of a statement. -/
def bindParams (needed : Nat) (values : List Value) : Except StorageFault (List Cell) :=
  bindFrom needed 0 values

namespace Database

/-- Everything up to the run of a statement. -/
def prepare (db : Database) (sql : String) (values : List Value) :
    Except StorageFault (Plan × List Cell) := do
  let parsed ← parse sql
  if db.foreign && !parsed.command.isTableless then throw .notADatabase
  let plan ← Plan.ofCommand db sql parsed.command
  let cells ← bindParams parsed.params values
  return (plan, cells)

/-- Runs a prepared statement on a database that may refuse changes. -/
def attempt (db : Database) (plan : Plan) (cells : List Cell) :
    Except StorageFault (ResultSet × Database) :=
  match db.refusal with
  | some fault => if plan.changes then .error fault else plan.run cells db
  | none => plan.run cells db

/-- Runs a prepared statement. A fault ends it without a change and without rows; a statement that
counts rows has then affected none. -/
def run (db : Database) (plan : Plan) (cells : List Cell) : ResultSet × Database :=
  match db.attempt plan cells with
  | .ok r => r
  | .error fault =>
    ({ stop := some fault }, if plan.counts then { db with changes := 0 } else db)

/-- The number of rows that the last change affected, unless the statement has rows itself. -/
def affected (r : ResultSet) (db : Database) : Except Error Int :=
  match r.stop, r.rows with
  | some fault, _ => .error (.storage fault)
  | none, _ :: _ => .error (.storage .returnsRows)
  | none, [] => .ok db.changes

/-- Databases as a storage engine. -/
def engine : StorageEngine (Plan × List Cell) Database where
  prepare sql values db := db.prepare sql values
  run prepared db := db.run prepared.1 prepared.2
  affected := affected

def exec (sql : String) (values : List Value) (db : Database) : Except Error Int × Database :=
  engine.exec sql values db

def query (sql : String) (values : List Value) (db : Database) :
    Except Error BufferedCursor × Database :=
  engine.query sql values db

/-- The log tells of a query that stopped early, and after how many rows. -/
def notes (c : BufferedCursor) : List LogEntry :=
  match c.trailing with
  | some (.storage fault) => [.fetchStopped c.rows.length fault]
  | _ => []

/-- The executor that runs statements on a database. -/
def executor : Executor Database BufferedCursor where
  exec := exec
  query := query
  notes := notes

end Database

end RecordMapper.Store
