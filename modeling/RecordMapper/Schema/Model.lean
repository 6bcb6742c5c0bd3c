import RecordMapper.Error

/-!
# Models

A model says how a record type maps onto table rows: the table, and for each mapped field its
column and how the field is read and written. `Model.defaultTable` gives the table name of a type
that names none.
-/

namespace RecordMapper

/-- Maps one field of a record to one column. -/
structure FieldDescriptor (R : Type) where
  name : String
  column : String
  /-- The column form of the field. -/
  get : R → Except ConversionError Value
  /-- The record with the field read from a column. -/
  set : Value → R → Except ConversionError R

/-- The mapping of a record type. Only the listed fields are mapped, in declaration order. -/
structure Model (R : Type) where
  /-- The qualified name of the record type. -/
  typeName : String
  /-- The table, where the type names one. -/
  table? : Option String
  /-- The record that rows are read into. -/
  initial : R
  fields : List (FieldDescriptor R)

namespace Model

/-- What stands before the first `::` of a text. -/
def beforeColons : List Char → List Char
  | ':' :: ':' :: _ => []
  | c :: cs => c :: beforeColons cs
  | [] => []

/-- What follows the last `::` of a path. -/
def lastSegment (path : List Char) : List Char :=
  (beforeColons path.reverse).reverse

/-- The last segment of a type name without its arguments: of what stands before the first `<`,
the part after the last `::`. -/
def defaultTable (typeName : String) : String :=
  String.ofList (lastSegment (typeName.toList.takeWhile (· != '<')))

/-- The name of the model's table. -/
def tableName {R : Type} (m : Model R) : String :=
  m.table?.getD (defaultTable m.typeName)

end Model

end RecordMapper
