import RecordMapper.Files.Basic

/-!
# A disk in memory

A tree of directories and files, kept as the list of its places, with the file operations as changes
of the tree. A path is followed step by step, so that each step on the way must be there, also one
that is taken back.
-/

namespace RecordMapper

/-- What stands at a place. -/
inductive DiskNode where
  | directory
  | file (content : ByteArray)

/-- The places of a tree, as steps from the root, with what stands there. -/
structure Disk where
  nodes : List (List String × DiskNode) := []

namespace Disk

/-- The directory that paths are relative to. -/
def home : List String := ["home"]

/-- The length of the longest path, in bytes. -/
def longestPath : Nat := 4095

/-- What stands at a place. The home directory is always there. -/
def node? (d : Disk) (place : List String) : Option DiskNode :=
  if place.isPrefixOf home then some .directory
  else (d.nodes.find? fun n => n.1 == place).map (·.2)

/-- Puts a node at a place. -/
def put (d : Disk) (place : List String) (n : DiskNode) : Disk where
  nodes := (place, n) :: d.nodes.filter fun m => m.1 != place

/-- The place that a path starts from. -/
def start (path : String) : List String :=
  if Files.isAbsolute path then [] else home

/-- The place that a step leads to from a directory, whether there is something or not. -/
def step (place : List String) (s : String) : Except FileFault (List String) :=
  if s = Files.here then .ok place
  else if s = Files.up then .ok place.dropLast
  else if Files.longestName < s.utf8ByteSize then .error .nameTooLong
  else .ok (place ++ [s])

/-- What stands at a place, or the fault that nothing does. -/
def node (d : Disk) (place : List String) : Except FileFault DiskNode :=
  match d.node? place with
  | some n => .ok n
  | none => .error .notFound

/-- There is a directory at a place. -/
def needDirectory (d : Disk) (place : List String) : Except FileFault Unit :=
  match d.node place with
  | .ok .directory => .ok ()
  | .ok (.file _) => .error .notDirectory
  | .error fault => .error fault

/-- The place that some steps lead to. All steps but the last lead to directories. -/
def follow (d : Disk) : List String → List String → Except FileFault (List String)
  | place, [] => .ok place
  | place, s :: ss => do
    d.needDirectory place
    follow d (← step place s) ss

/-- The path can be handed to the file operations at all. -/
def checkPath (path : String) : Except FileFault Unit :=
  if '\x00' ∈ path.toList then .error .nulInPath
  else if path = "" then .error .notFound
  else if longestPath < path.utf8ByteSize then .error .nameTooLong
  else .ok ()

/-- The path can only be that of a directory. -/
def endsInSlash (path : String) : Bool :=
  path.endsWith "/"

/-- The node at a path. -/
def lookup (d : Disk) (path : String) : Except FileFault DiskNode := do
  checkPath path
  let place ← d.follow (start path) (Files.steps path)
  let n ← d.node place
  if endsInSlash path then d.needDirectory place
  return n

def read (d : Disk) (path : String) : Except FileFault ByteArray := do
  match ← d.lookup path with
  | .file content => return content
  | .directory => throw .isDirectory

/-- The place of a file that is to be written. -/
def target (d : Disk) (path : String) : Except FileFault (List String) := do
  checkPath path
  let ss := Files.steps path
  let directory ← d.follow (start path) ss.dropLast
  d.needDirectory directory
  match ss.getLast? with
  | none => throw .isDirectory
  | some s =>
    if endsInSlash path then throw .isDirectory
    let place ← step directory s
    match d.node? place with
    | some .directory => throw .isDirectory
    | _ => return place

def write (d : Disk) (path : String) (content : ByteArray) : Except FileFault Unit × Disk :=
  match d.target path with
  | .error fault => (.error fault, d)
  | .ok place => (.ok (), d.put place (.file content))

/-- Makes the missing directories on a way that starts at a directory. -/
def makeFrom (d : Disk) : List String → List String → Except FileFault Unit × Disk
  | _, [] => (.ok (), d)
  | place, s :: ss =>
    match step place s with
    | .error fault => (.error fault, d)
    | .ok next =>
      match d.node? next with
      | some .directory => makeFrom d next ss
      | some (.file _) => (.error (if ss = [] then .occupied else .notDirectory), d)
      | none => makeFrom (d.put next .directory) next ss

def makeDirectories (d : Disk) (path : String) : Except FileFault Unit × Disk :=
  match checkPath path with
  | .error fault => (.error fault, d)
  | .ok () => d.makeFrom (start path) (Files.steps path)

/-- The disk with some text files, whose directories are made. -/
def ofFiles (files : List (String × String)) : Disk :=
  files.foldl (fun d f =>
    let d := ((Files.parent? f.1).map fun p => (d.makeDirectories p).2).getD d
    (d.write f.1 (Text.Utf8.encode f.2)).2) {}

instance : Files (StateM Disk) where
  read path := do return (← get).read path
  write path content := modifyGet fun d => d.write path content
  isPresent path := do return (← get).lookup path |>.isOk
  makeDirectories path := modifyGet fun d => d.makeDirectories path

end Disk

end RecordMapper
