import RecordMapper.Schema.Model

/-!
# Declared records

A record type can be declared by listing its fields with their types and saying which of them are
mapped. The records of a declaration hold one content for each field, and the model of a
declaration converts every mapped field as its type says.
-/

namespace RecordMapper

/-- A field of a declared record type. -/
structure FieldDeclaration where
  name : String
  type : FieldType
  /-- What the field holds in a new record. -/
  initial : type.Carrier := type.initial

/-- A record of fields: one content for each field. -/
def Fields (fs : List FieldDeclaration) : Type :=
  (i : Fin fs.length) → fs[i].type.Carrier

namespace Fields

variable {fs : List FieldDeclaration}

/-- The record with every field as declared. -/
def initial (fs : List FieldDeclaration) : Fields fs :=
  fun i => fs[i].initial

/-- The record with one field replaced. -/
def set (r : Fields fs) (i : Fin fs.length) (x : fs[i].type.Carrier) : Fields fs :=
  fun j => if h : j = i then h ▸ x else r j

@[simp]
theorem set_self (r : Fields fs) (i : Fin fs.length) (x : fs[i].type.Carrier) :
    r.set i x i = x := by
  simp [set]

theorem set_of_ne (r : Fields fs) {i j : Fin fs.length} (h : j ≠ i) (x : fs[i].type.Carrier) :
    r.set i x j = r j := by
  simp [set, h]

/-- The descriptor of one field, under its own name unless another column is given. -/
def descriptor (fs : List FieldDeclaration) (i : Fin fs.length) (column? : Option String) :
    FieldDescriptor (Fields fs) where
  name := fs[i].name
  column := column?.getD fs[i].name
  get r := fs[i].type.toValue (r i)
  set v r := (fs[i].type.fromValue v).map (r.set i)

end Fields

/-- A declared record type and its mapping. -/
structure Declaration where
  typeName : String
  table? : Option String := none
  fields : List FieldDeclaration
  /-- The mapped fields, each with its column where that is not the field's own name. -/
  mapped : List (Fin fields.length × Option String)

namespace Declaration

/-- The records of a declaration. -/
abbrev Rec (d : Declaration) : Type :=
  Fields d.fields

/-- The model of a declaration. -/
def model (d : Declaration) : Model d.Rec where
  typeName := d.typeName
  table? := d.table?
  initial := Fields.initial d.fields
  fields := d.mapped.map fun m => Fields.descriptor d.fields m.1 m.2

end Declaration

end RecordMapper
