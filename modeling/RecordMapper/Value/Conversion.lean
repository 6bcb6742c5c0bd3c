import RecordMapper.Value.Basic

/-!
# Conversion between fields and columns

A record field has a `FieldType`. `FieldType.toValue` gives the column form of a field, which fails
only where there is none without loss: an unsigned integer beyond the signed range, or an instant
too far from the epoch. `FieldType.fromValue` reads a column back, and accepts besides the field's
own kind the forms that a database without booleans and instants stores.
-/

namespace RecordMapper

/-- The types of fields that are always present. -/
inductive ScalarType where
  | integer (t : IntegerType)
  | single
  | double
  | bool
  | text
  | timestamp
deriving DecidableEq, Repr

/-- The types of record fields. -/
inductive FieldType where
  | scalar (s : ScalarType)
  | optional (s : ScalarType)
deriving DecidableEq, Repr

/-- The name of the type in messages. -/
def ScalarType.name : ScalarType → String
  | integer t => t.name
  | single => "f32"
  | double => "f64"
  | bool => "bool"
  | text => "string"
  | timestamp => "timestamp"

/-- What a field of the type holds. -/
abbrev ScalarType.Carrier : ScalarType → Type
  | integer t => Bounded t
  | single => Binary32
  | double => Binary64
  | bool => Bool
  | text => String
  | timestamp => Instant

/-- What a field of the type holds. -/
abbrev FieldType.Carrier : FieldType → Type
  | scalar s => s.Carrier
  | optional s => Option s.Carrier

/-- Why a field and a column value do not convert into each other. -/
inductive ConversionError where
  /-- The value is of a kind that the field does not accept. -/
  | mismatch (expected : ScalarType) (found : Value.Kind)
  /-- The integer is outside the target type. -/
  | integerOutOfRange (target : IntegerType) (value : Int)
  /-- The instant is too far from the epoch for a count of nanoseconds. -/
  | instantOutOfRange (value : Instant)
deriving DecidableEq

namespace ConversionError

def message : ConversionError → String
  | mismatch expected found => "expected " ++ expected.name ++ ", found " ++ found.name
  | integerOutOfRange target value =>
    toString value ++ " is out of range for " ++ target.name
  | instantOutOfRange value => value.diagnostic ++ " is out of range for i64 nanoseconds"

end ConversionError

/-- The column form of an instant as nanoseconds. -/
def Instant.toNanos (t : Instant) : Except ConversionError Integer64 :=
  match t.toNanos? with
  | some n => .ok n
  | none => .error (.instantOutOfRange t)

namespace ScalarType

/-- The content of a new field: zero, false, the empty text, the epoch. -/
def initial : (s : ScalarType) → s.Carrier
  | integer t => Bounded.zero t
  | single => Binary.zero .single
  | double => Binary.zero .double
  | bool => false
  | text => ""
  | timestamp => Instant.epoch

/-- The column form of a field. -/
def toValue : (s : ScalarType) → s.Carrier → Except ConversionError Value
  | integer _, x =>
    match x.cast? .i64 with
    | some i => .ok (.integer i)
    | none => .error (.integerOutOfRange .i64 x.val)
  | single, x => .ok (.real (x.convert .double))
  | double, x => .ok (.real x)
  | bool, b => .ok (.bool b)
  | text, s => .ok (.text s)
  | timestamp, t => t.toNanos.map fun _ => .timestamp t

/-- The field read from a column. Integers are read into reals as the nearest real, into a boolean
when they are zero or one, and into an instant as nanoseconds. -/
def fromValue : (s : ScalarType) → Value → Except ConversionError s.Carrier
  | integer t, .integer i =>
    match i.cast? t with
    | some x => .ok x
    | none => .error (.integerOutOfRange t i.val)
  | single, .real r => .ok (r.convert .single)
  | single, .integer i => .ok (Binary.ofInt .single i.val)
  | double, .real r => .ok r
  | double, .integer i => .ok (Binary.ofInt .double i.val)
  | bool, .bool b => .ok b
  | bool, .integer i =>
    if i.val = 0 then .ok false
    else if i.val = 1 then .ok true
    else .error (.mismatch .bool .integer)
  | text, .text s => .ok s
  | timestamp, .timestamp t => .ok t
  | timestamp, .integer n => .ok (.ofNanos n)
  | s, v => .error (.mismatch s v.kind)

/-- The value that a field is wrapped into without a check; sixty-four-bit unsigned integers have
no such wrapping. -/
def wrap? : (s : ScalarType) → s.Carrier → Option Value
  | integer t, x =>
    if t.greatest ≤ IntegerType.i64.greatest then (x.cast? .i64).map .integer else none
  | single, x => some (.real (x.convert .double))
  | double, x => some (.real x)
  | bool, b => some (.bool b)
  | text, s => some (.text s)
  | timestamp, t => some (.timestamp t)

end ScalarType

namespace FieldType

/-- The content of a new field; an optional one is absent. -/
def initial : (t : FieldType) → t.Carrier
  | scalar s => s.initial
  | optional _ => none

/-- The column form of a field; an absent one is null. -/
def toValue : (t : FieldType) → t.Carrier → Except ConversionError Value
  | scalar s, x => s.toValue x
  | optional _, none => .ok .null
  | optional s, some x => s.toValue x

/-- The field read from a column; null is read as an absent optional field. -/
def fromValue : (t : FieldType) → Value → Except ConversionError t.Carrier
  | scalar s, v => s.fromValue v
  | optional _, .null => .ok none
  | optional s, v => (s.fromValue v).map some

/-- The value that a field is wrapped into without a check. -/
def wrap? : (t : FieldType) → t.Carrier → Option Value
  | scalar s, x => s.wrap? x
  | optional _, none => some .null
  | optional s, some x => s.wrap? x

end FieldType

end RecordMapper
