import RecordMapper.Binary.Basic

/-!
# TOML values

A TOML document is a table of values by key. While a document is read, a table also remembers how it
came about, because that decides whether later lines may still add to it.
-/

namespace RecordMapper.Toml

/-- A TOML value. Dates and times are only told apart from the other values. -/
inductive Value where
  | string (s : String)
  | integer (i : Int)
  | real (r : Binary64)
  | bool (b : Bool)
  | date
  | array (items : List Value)
  | table (entries : List (String × Value))

/-- How a table came about: by its own header, as the parent in another header, or as the parent in
a dotted key. -/
inductive Form where
  | header
  | implied
  | dotted
deriving DecidableEq, Repr

/-- An entry of a document that is being read: a value, a table that may still grow, or an array of
tables, of which the last may still grow. -/
inductive Item where
  | value (v : Value)
  | table (form : Form) (entries : List (String × Item))
  | tables (ts : List (List (String × Item)))

/-- The entries of a table that is being read, in the order in which they came about. -/
abbrev Entries := List (String × Item)

namespace Entries

def lookup? (es : Entries) (k : String) : Option Item :=
  (es.find? fun e => e.1 == k).map (·.2)

/-- The entries with the one of a key replaced, or added behind the others. -/
def put (es : Entries) (k : String) (i : Item) : Entries :=
  if (es.find? fun e => e.1 == k).isSome then es.map fun e => if e.1 == k then (k, i) else e
  else es ++ [(k, i)]

/-- Changes the table at the end of a path, where `form` is the form of the table that the path
starts from. Missing tables on the way are made; dotted keys do not lead into a table that has a
header. -/
def modifyAt (dotted : Bool) (change : Form → Entries → Option Entries) :
    List String → Form → Entries → Option Entries
  | [], form, es => change form es
  | k :: ks, _, es =>
    match es.lookup? k with
    | none => do
      let form := if dotted then Form.dotted else Form.implied
      let child ← modifyAt dotted change ks form []
      return es.put k (.table form child)
    | some (.value _) => none
    | some (.table form child) => do
      if dotted && form == .header then none
      else
        let child ← modifyAt dotted change ks form child
        return es.put k (.table form child)
    | some (.tables ts) => do
      let child ← modifyAt dotted change ks .header (ts.getLastD [])
      return es.put k (.tables (ts.dropLast ++ [child]))

/-- Adds a value under a dotted key. -/
def insertValue (path : List String) (k : String) (v : Value) (es : Entries) : Option Entries :=
  let add (form : Form) (es : Entries) : Option Entries :=
    if path ≠ [] ∧ form ≠ .dotted then none
    else if (es.lookup? k).isSome then none
    else some (es ++ [(k, .value v)])
  modifyAt true add path .header es

/-- The entries without the one of a key. -/
def erase (es : Entries) (k : String) : Entries :=
  es.filter fun e => !(e.1 == k)

/-- Starts the table of a header. A table that was only implied before moves behind the others. -/
def openTable (path : List String) (k : String) (es : Entries) : Option Entries :=
  let start (_ : Form) (es : Entries) : Option Entries :=
    match es.lookup? k with
    | none => some (es ++ [(k, .table .header [])])
    | some (.table .implied child) => some (es.erase k ++ [(k, .table .header child)])
    | some _ => none
  modifyAt false start path .header es

/-- Starts the next table of an array of tables. -/
def openElement (path : List String) (k : String) (es : Entries) : Option Entries :=
  let start (_ : Form) (es : Entries) : Option Entries :=
    match es.lookup? k with
    | none => some (es ++ [(k, .tables [[]])])
    | some (.tables ts) => some (es.put k (.tables (ts ++ [[]])))
    | some _ => none
  modifyAt false start path .header es

end Entries

mutual

/-- The value that an entry has at the end of the document. -/
def Item.toValue : Item → Value
  | .value v => v
  | .table _ es => .table (Item.toEntries es)
  | .tables ts => .array (Item.toTables ts)

def Item.toEntries : List (String × Item) → List (String × Value)
  | [] => []
  | (k, i) :: es => (k, i.toValue) :: Item.toEntries es

def Item.toTables : List (List (String × Item)) → List Value
  | [] => []
  | es :: ts => .table (Item.toEntries es) :: Item.toTables ts

end

end RecordMapper.Toml
