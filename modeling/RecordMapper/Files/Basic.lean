import RecordMapper.Error
import RecordMapper.Text.Utf8

/-!
# Files

The few file operations that the library needs, over any monad that offers them, and what can be
told from a path alone: its steps, its parent directory, and the path without detours.
-/

namespace RecordMapper

/-- File operations in a monad. Paths are separated by slashes and relative to one directory. -/
class Files (m : Type → Type) where
  /-- The content of a file. -/
  read : String → m (Except FileFault ByteArray)
  /-- Writes a file, replacing one that exists. -/
  write : String → ByteArray → m (Except FileFault Unit)
  /-- There is a file or directory at the path. -/
  isPresent : String → m Bool
  /-- Makes a directory and those above it, as far as they are missing. -/
  makeDirectories : String → m (Except FileFault Unit)

namespace Files

/-- The step that stays where it is. -/
def here : String := "."

/-- The step to the directory above. -/
def up : String := ".."

/-- The length of the longest name of a file, in bytes. -/
def longestName : Nat := 255

/-- The steps of a path. -/
def steps (path : String) : List String :=
  (path.splitOn "/").filter (· != "")

/-- The path starts at the root. -/
def isAbsolute (path : String) : Bool :=
  path.startsWith "/"

/-- The path with the given steps. -/
def ofSteps (absolute : Bool) (ss : List String) : String :=
  let joined := String.intercalate "/" ss
  if absolute then "/" ++ joined else if ss = [] then here else joined

/-- The directory that a path's last step lies in; nothing where the path is a single step. -/
def parent? (path : String) : Option String :=
  match (steps path).filter (· != here) with
  | [] => none
  | [_] => if isAbsolute path then some (ofSteps true []) else none
  | ss => some (ofSteps (isAbsolute path) ss.dropLast)

/-- One more step behind some others, the last one first. A step up cancels the one before it, and
nothing lies above the root. -/
def push (absolute : Bool) (ss : List String) (s : String) : List String :=
  if s = here then ss
  else if s = up then
    match ss with
    | [] => if absolute then [] else [up]
    | t :: ts => if t = up then up :: ss else ts
  else s :: ss

/-- The path without detours, as far as this can be told without a look at the files. -/
def direct (path : String) : String :=
  ofSteps (isAbsolute path) ((steps path).foldl (push (isAbsolute path)) []).reverse

section Text

variable {m : Type → Type} [Monad m] [Files m]

/-- The text in a file. -/
def readText (path : String) : m (Except FileFault String) := do
  match ← read path with
  | .error fault => return .error fault
  | .ok bytes =>
    match Text.Utf8.decode bytes with
    | .ok text => return .ok text
    | .error _ => return .error .notText

/-- Writes a text to a file. -/
def writeText (path text : String) : m (Except FileFault Unit) :=
  write path (Text.Utf8.encode text)

end Text

end Files

end RecordMapper
