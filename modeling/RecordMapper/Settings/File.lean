import RecordMapper.Files.Basic
import RecordMapper.Settings.Basic

/-!
# Settings files

Settings are loaded from a file, where a missing file means the defaults, and saved to one, which is
not replaced unless that is asked for.
-/

namespace RecordMapper.Settings

variable {m : Type → Type} [Monad m] [Files m]

/-- The settings in a file. -/
def load (path? : Option String) : m (Except Error Settings) := do
  let path := path?.getD defaultPath
  match ← Files.readText path with
  | .ok text =>
    match parse text with
    | .ok s => return .ok s
    | .error fault => return .error (.config (.unreadable path fault))
  | .error .notFound => return .ok {}
  | .error fault => return .error (.file fault)

/-- Writes the settings to a file. -/
def save (s : Settings) (path : String) (overwrite : Bool) : m (Except Error Unit) := do
  if !overwrite && (← Files.isPresent path) then
    return .error (.config (.alreadyExists path))
  match ← Files.writeText path s.render with
  | .ok () => return .ok ()
  | .error fault => return .error (.file fault)

end RecordMapper.Settings
