import RecordMapper.Executor.Basic
import RecordMapper.Store.ResultSet

/-!
# Storage engines

A storage engine prepares a statement, which covers the binding of its parameters, and runs what it
has prepared. How it does so is its own affair: `exec` and `query` only pass its answers on. A fault
before the run is an error of the call. A fault of the run is an error of the call for a statement,
and the error after the rows for a query.
-/

namespace RecordMapper

/-- Prepares statements, as members of `π`, and runs them on a state of type `σ`. -/
structure StorageEngine (π σ : Type) where
  /-- Everything up to the run of a statement. -/
  prepare : String → List Value → σ → Except StorageFault π
  /-- Runs a prepared statement. -/
  run : π → σ → ResultSet × σ
  /-- How many rows a run has affected, or why it does not tell. -/
  affected : ResultSet → σ → Except Error Int

namespace StorageEngine

variable {π σ : Type} (x : StorageEngine π σ) (sql : String) (values : List Value) (s : σ)

/-- Runs a statement that returns no rows. -/
def exec : Except Error Int × σ :=
  match x.prepare sql values s with
  | .error fault => (.error (.storage fault), s)
  | .ok p =>
    let (r, s) := x.run p s
    (x.affected r s, s)

/-- Runs a statement and opens a cursor over its rows. -/
def query : Except Error BufferedCursor × σ :=
  match x.prepare sql values s with
  | .error fault => (.error (.storage fault), s)
  | .ok p =>
    let (r, s) := x.run p s
    (.ok r.cursor, s)

end StorageEngine

end RecordMapper
