import RecordMapper.Store.Dump
import RecordMapper.Store.Location

/-!
# Database files

A database file is opened by reading all of it, and kept by writing the tables back. A missing file
is made empty, together with its directory.
-/

namespace RecordMapper.Store.Database

variable {m : Type → Type} [Monad m] [Files m]

/-- The database in a file. A file that is empty, or as good as empty with a single byte, is a
database without tables. -/
def ofContent (content : ByteArray) : Database :=
  if content.size ≤ 1 then {} else (ofDump? content).getD { foreign := true }

/-- Opens the database at a location; `name` is the name that led to it. -/
def openLocation (name : String) (l : Location) : m (Except StorageFault Database) := do
  match l.file? with
  | none => return .ok {}
  | some file =>
    match ← Files.read file with
    | .ok content => return .ok (ofContent content)
    | .error .notFound =>
      if l.access = .creating then
        match ← Files.write file .empty with
        | .ok () => return .ok {}
        | .error _ => return .error (.cannotOpen name)
      else return .error (.cannotOpen name)
    | .error .isDirectory =>
      return .error (if l.access = .reading then .unreadable else .cannotOpen name)
    | .error _ => return .error (.cannotOpen name)

/-- Opens the database with a name. The directory is made before the name is taken for anything but
a path. -/
def openFile (name : String) : m (Except Error Database) := do
  let made ← match Files.parent? name with
    | some directory => Files.makeDirectories directory
    | none => pure (.ok ())
  match made with
  | .error fault => return .error (.file fault)
  | .ok () =>
    match Location.ofName name with
    | .error fault => return .error (.storage fault)
    | .ok l =>
      match ← openLocation name l with
      | .error fault => return .error (.storage fault)
      | .ok db => return .ok { db with refusal := l.refusal? }

/-- Writes a database back to its file. A file that holds something else, or has no tables yet, is
left as it is. -/
def keepFile (db : Database) (name : String) : m (Except Error Unit) := do
  match Location.ofName name with
  | .error fault => return .error (.storage fault)
  | .ok l =>
    match l.file? with
    | none => return .ok ()
    | some file =>
      if db.foreign || db.refusal.isSome || db.tables.isEmpty then return .ok ()
      match ← Files.write file db.dump with
      | .ok () => return .ok ()
      | .error fault => return .error (.file fault)

end RecordMapper.Store.Database
