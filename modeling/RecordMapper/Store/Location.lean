import RecordMapper.Error
import RecordMapper.Files.Basic
import RecordMapper.Text.Hexadecimal
import RecordMapper.Text.Utf8

/-!
# Locations of databases

A database is named by a path or by a URI with the scheme `file`. Either leads to a file or to a
private database that is in no file. The options of a URI also say how the file may be used. Paths
are taken without detours, which are resolved before any file is looked at.
-/

namespace RecordMapper.Store

/-- How the file of a database may be used: only read, changed if it exists, changed and made if it
is missing, or not at all. -/
inductive Access where
  | reading
  | changing
  | creating
  | memory
deriving DecidableEq, Repr

namespace Access

/-- The access that a URI asks for. -/
def ofName? : String → Option Access
  | "ro" => some .reading
  | "rw" => some .changing
  | "rwc" => some .creating
  | "memory" => some .memory
  | _ => none

def rank : Access → Nat
  | memory => 0
  | reading => 1
  | changing => 2
  | creating => 3

/-- Another access may be asked for where this one was granted. It must not exceed this one, except
that a database in memory has no file to protect. -/
def allows (a b : Access) : Bool :=
  a == .memory || decide (b.rank ≤ a.rank)

end Access

/-- The parts of a URI. -/
structure Uri where
  authority : String
  path : String
  options : List (String × String)

namespace Uri

/-- The bytes of a part in which other bytes are escaped. An escaped zero ends the part. -/
def unescape : List Char → List UInt8
  | '%' :: a :: b :: cs =>
    match Text.hexByte? a b with
    | some byte => if byte = 0 then [] else byte :: unescape cs
    | none => 0x25 :: unescape (a :: b :: cs)
  | c :: cs => (Text.Utf8.encode (String.singleton c)).toList ++ unescape cs
  | [] => []

/-- The text with the given bytes. Bytes that are no text are shown as private-use characters, so
that different bytes stay different. -/
def ofBytes (bs : List UInt8) : String :=
  match Text.Utf8.decode ⟨bs.toArray⟩ with
  | .ok s => s
  | .error _ => String.ofList (bs.map fun b => Char.ofNat (0x10ff00 + b.toNat))

/-- A part without its escapes. -/
def plain (cs : List Char) : String :=
  ofBytes (unescape cs)

/-- The authority after two slashes, and what follows it. -/
def splitAuthority : List Char → List Char × List Char
  | '/' :: '/' :: cs => (cs.takeWhile (· != '/'), cs.dropWhile (· != '/'))
  | cs => ([], cs)

/-- The name and the value of an option. -/
def option (cs : List Char) : String × String :=
  (plain (cs.takeWhile (· != '=')), plain ((cs.dropWhile (· != '=')).drop 1))

/-- The options of a query; those without a name mean nothing. -/
def ofQuery (query : List Char) : List (String × String) :=
  (((String.ofList query).splitOn "&").map fun s => option s.toList).filter fun o => o.1 != ""

/-- The parts of a text that starts with the scheme. A fragment is dropped. -/
def ofText? (s : String) : Option Uri :=
  match s.toList with
  | 'f' :: 'i' :: 'l' :: 'e' :: ':' :: cs =>
    let (authority, rest) := splitAuthority cs
    let rest := rest.takeWhile (· != '#')
    some {
      authority := String.ofList authority
      path := plain (rest.takeWhile (· != '?'))
      options := ofQuery ((rest.dropWhile (· != '?')).drop 1) }
  | _ => none

/-- The access after one more option. -/
def grant (a : Access) (o : String × String) : Except StorageFault Access :=
  match o.1 with
  | "cache" =>
    if o.2 = "shared" ∨ o.2 = "private" then .ok a else .error (.noSuchMode "cache" o.2)
  | "mode" =>
    match Access.ofName? o.2 with
    | none => .error (.noSuchMode "access" o.2)
    | some b => if a.allows b then .ok b else .error (.modeNotAllowed "access" o.2)
  | _ => .ok a

/-- The access that all options together ask for. -/
def access (u : Uri) : Except StorageFault Access :=
  u.options.foldlM grant .creating

/-- The file system that is used where no option chooses one. -/
def standardFileSystem : String := "unix"

/-- The file system that keeps its files in memory. -/
def memoryFileSystem : String := "memdb"

/-- The file systems that an option may choose. -/
def fileSystems : List String :=
  [standardFileSystem, "unix-dotfile", "unix-excl", "unix-none", memoryFileSystem]

/-- The file system that is chosen, if any is. -/
def fileSystem? (u : Uri) : Option String :=
  ((u.options.filter fun o => o.1 == "vfs").getLast?).map (·.2)

/-- A value that means yes: a number other than zero, or a word. -/
def isYes (value : String) : Bool :=
  match value.toList.takeWhile Char.isDigit with
  | [] => ["on", "yes", "true"].contains value.toLower
  | ds => ds.any (· != '0')

/-- The file is promised not to change. -/
def isImmutable (u : Uri) : Bool :=
  ((u.options.find? fun o => o.1 == "immutable").map fun o => isYes o.2).getD false

end Uri

/-- Where a database is kept. -/
structure Location where
  /-- The path of its file; a private database has none. -/
  file? : Option String
  access : Access := .creating
  /-- The file is promised not to change. -/
  frozen : Bool := false

namespace Location

/-- The names of private databases. -/
def privateNames : List String := ["", ":memory:"]

/-- The length of the longest path of a database file, in bytes. -/
def longestFile : Nat := 488

/-- The path means a private database. -/
def isPrivate (path : String) (access : Access) : Bool :=
  privateNames.contains path || access == .memory

/-- The location of a path; `name` is the name that led to it. -/
def ofPath (name path : String) (access : Access) : Except StorageFault Location :=
  if isPrivate path access then .ok { file? := none, access := access }
  else
    let file := Files.direct path
    if longestFile < file.utf8ByteSize then .error (.cannotOpen name)
    else .ok { file? := some file, access := access }

/-- The location that a URI leads to. -/
def ofUri (name : String) (u : Uri) : Except StorageFault Location := do
  if u.authority ≠ "" ∧ u.authority ≠ "localhost" then throw (.invalidAuthority u.authority)
  let access ← u.access
  let system := u.fileSystem?.getD Uri.standardFileSystem
  if system ∉ Uri.fileSystems then throw (.noSuchFileSystem system)
  let l ← if system = Uri.memoryFileSystem then pure { file? := none, access := access }
    else ofPath name u.path access
  return { l with frozen := u.isImmutable && !isPrivate u.path access }

/-- The location that a name leads to. -/
def ofName (name : String) : Except StorageFault Location :=
  let before := name.toList.takeWhile (· != '\x00')
  if '\x00' ∈ name.toList then .error (.nulInPath (String.ofList before).utf8ByteSize)
  else
    match Uri.ofText? name with
    | some u => ofUri name u
    | none => ofPath name name .creating

/-- What the store puts behind the name of a file where it records a change in progress. -/
def journalMark : String := "-journal"

/-- Why the database at a location cannot be changed, if it cannot. -/
def refusal? (l : Location) : Option StorageFault :=
  if l.access = .reading ∨ l.frozen then some .readOnly
  else
    match l.file?.bind fun file => (Files.steps file).getLast? with
    | some s =>
      if Files.longestName < (s ++ journalMark).utf8ByteSize then some .noJournal else none
    | none => none

end Location

end RecordMapper.Store
