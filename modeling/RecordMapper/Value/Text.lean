import RecordMapper.Decimal.Layout
import RecordMapper.Text.Escape
import RecordMapper.Value.Conversion

/-!
# Written forms of values

A value is written in three ways: `Value.display` is the plain form of a table cell, `Value.json`
is a JSON value, `Value.diagnostic` names the kind as well. The forms of reals differ in where an
exponent is used and are kept as one layout each.
-/

namespace RecordMapper.Value

/-- Reals in a table cell never have an exponent, and whole numbers have no point. -/
def displayLayout : Decimal.Layout where
  tie := .up
  positional := none
  keepsPoint := false
  signsExponent := false
  notANumber := "NaN"
  infinity := "inf"

/-- Reals in a diagnostic keep the point, and have an exponent from `1e16` up and below `1e-4`. -/
def diagnosticLayout : Decimal.Layout where
  tie := .up
  positional := some (-4, 16)
  keepsPoint := true
  signsExponent := false
  notANumber := "NaN"
  infinity := "inf"

/-- Reals in JSON keep the point, and have a signed exponent from `1e+16` up and below `1e-5`. -/
def jsonLayout : Decimal.Layout where
  tie := .toEven
  positional := some (-5, 16)
  keepsPoint := true
  signsExponent := true
  notANumber := "null"
  infinity := "null"

/-- The text of a truth value. -/
def boolText (b : Bool) : String :=
  if b then "true" else "false"

/-- The plain form. An instant is its nanoseconds, or both its parts where these do not fit. -/
def display : Value → String
  | null => "NULL"
  | integer i => toString i.val
  | real r => displayLayout.text r
  | text s => s
  | bool b => boolText b
  | timestamp t =>
    match t.toNanos? with
    | some n => toString n.val ++ "ns"
    | none => t.diagnostic

/-- The JSON form. A real that is no number is null; an instant is its nanoseconds. -/
def json : Value → Except ConversionError String
  | null => .ok "null"
  | integer i => .ok (toString i.val)
  | real r => .ok (if r.isFinite then jsonLayout.text r else "null")
  | text s => .ok (Text.jsonString s)
  | bool b => .ok (boolText b)
  | timestamp t => t.toNanos.map fun n => toString n.val

/-- The kind and content of a value, for a diagnostic. -/
def diagnostic : Value → String
  | null => "Null"
  | integer i => "Integer(" ++ toString i.val ++ ")"
  | real r => "Real(" ++ diagnosticLayout.text r ++ ")"
  | text s => "Text(" ++ Text.diagnosticString s ++ ")"
  | bool b => "Bool(" ++ boolText b ++ ")"
  | timestamp t => "Timestamp(" ++ t.diagnostic ++ ")"

end RecordMapper.Value
