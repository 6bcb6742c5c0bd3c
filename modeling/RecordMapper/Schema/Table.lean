import RecordMapper.Schema.Model
import RecordMapper.Text.Escape

/-!
# Table schemas

The schema of a model is its table name and its fields, checked: the names are not empty and no
column is mapped twice. Column lists, rows of values and scanned rows all follow the order of the
fields.
-/

namespace RecordMapper

/-- The column layout of a record type. -/
structure TableSchema (R : Type) where
  name : String
  fields : List (FieldDescriptor R)

namespace TableSchema

variable {R : Type}

/-- The first fault in a list of fields, where the columns in `seen` are taken. A field without a
name is reported before a field whose column is taken. -/
def fieldFault? (seen : List String) : List (FieldDescriptor R) → Option ModelFault
  | [] => none
  | f :: fs =>
    if f.name = "" ∨ f.column = "" then some .emptyName
    else if f.column ∈ seen then some (.repeatedColumn f.column)
    else fieldFault? (f.column :: seen) fs

/-- The first fault of a model: no table name, no fields, or a fault among the fields. -/
def fault? (m : Model R) : Option ModelFault :=
  if m.tableName = "" then some .emptyTable
  else if m.fields.isEmpty then some .noFields
  else fieldFault? [] m.fields

/-- Checks a model and gives its schema. -/
def derive (m : Model R) : Except Error (TableSchema R) :=
  match fault? m with
  | some fault => .error (.invalidModel m.typeName fault)
  | none => .ok ⟨m.tableName, m.fields⟩

/-- The number of mapped fields. -/
def width (s : TableSchema R) : Nat :=
  s.fields.length

def columns (s : TableSchema R) : List String :=
  s.fields.map (·.column)

/-- The field with this name, or else the field with this column. -/
def field? (s : TableSchema R) (name : String) : Option (FieldDescriptor R) :=
  match s.fields.find? fun f => f.name == name with
  | some f => some f
  | none => s.fields.find? fun f => f.column == name

/-- The column forms of a record's fields; the first field without one is reported. -/
def fieldValues (r : R) : List (FieldDescriptor R) → Except Error (List Value)
  | [] => .ok []
  | f :: fs =>
    match f.get r with
    | .error cause => .error (.bind f.column cause)
    | .ok v =>
      match fieldValues r fs with
      | .error e => .error e
      | .ok vs => .ok (v :: vs)

/-- A record's values in column order. -/
def recordValues (s : TableSchema R) (r : R) : Except Error (List Value) :=
  fieldValues r s.fields

/-- Reads values into the fields of a record, one value for each field. -/
def fill (row : Nat) : List (FieldDescriptor R) → List Value → R → Except Error R
  | f :: fs, v :: vs, r =>
    match f.set v r with
    | .error cause => .error (.scan row f.column (.conversion cause))
    | .ok r => fill row fs vs r
  | _, _, r => .ok r

/-- The record of a row, which starts from `initial` and must have one value for each field. -/
def readRow (s : TableSchema R) (initial : R) (row : Nat) (values : List Value) : Except Error R :=
  if values.length ≠ s.width then .error (.scan row "*" (.width s.width values.length))
  else fill row s.fields values initial

/-- The field descriptors, for a diagnostic. -/
def diagnostic (s : TableSchema R) : String :=
  let quoted := Text.diagnosticString
  let one (f : FieldDescriptor R) : String :=
    "FieldDescriptor \x7b name: " ++ quoted f.name ++ ", column: " ++ quoted f.column ++ " \x7d"
  "[" ++ String.intercalate ", " (s.fields.map one) ++ "]"

end TableSchema

end RecordMapper
