import RecordMapper.Session.Engine
import RecordMapper.Settings.File
import RecordMapper.Store.Executor
import RecordMapper.Store.File

/-!
# Opening engines

An engine over the bundled store works on a database in memory or in a file, as the settings say.
The database is read when the engine is opened, and kept in its file when the work is done.
-/

namespace RecordMapper

/-- An engine whose executor is the bundled store. -/
abbrev StoreEngine (F : Family) := Engine F Store.Database BufferedCursor

namespace StoreEngine

variable {F : Family} {m : Type → Type} [Monad m] [Files m]

/-- An engine over a database, in the dialect of the store. -/
def ofDatabase (db : Store.Database) : StoreEngine F where
  executor := Store.Database.executor
  dialect := .sqlite
  state := db

/-- An engine over a new private database. -/
def inMemory : StoreEngine F :=
  ofDatabase {}

/-- An engine over the database in a file. -/
def openFile (path : String) : m (Except Error (StoreEngine F)) := do
  return (← Store.Database.openFile path).map ofDatabase

def openTarget : Target → m (Except Error (StoreEngine F))
  | .memory => return .ok inMemory
  | .file path => openFile path

/-- An engine over the database that the settings name, in their dialect. -/
def ofSettings (s : Settings) : m (Except Error (StoreEngine F)) :=
  match s.target with
  | .error e => return .error e
  | .ok t => do return (← openTarget t).map fun e => { e with dialect := s.dialect }

/-- Keeps the database of an engine where it was opened. -/
def keep (e : StoreEngine F) : Target → m (Except Error Unit)
  | .memory => return .ok ()
  | .file path => e.state.keepFile path

end StoreEngine

end RecordMapper
