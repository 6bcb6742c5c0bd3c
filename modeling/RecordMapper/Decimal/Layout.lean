import RecordMapper.Decimal.Shortest

/-!
# Laying out a number

A `Layout` holds the decisions of one written form of numbers: when digits are written
positionally, whether a whole number keeps a zero after the point, how an exponent is signed and
which words stand for the special values.
-/

namespace RecordMapper.Decimal

/-- The decisions of one written form of numbers. -/
structure Layout where
  /-- Which of two equally near shortest forms is written. -/
  tie : Tie
  /-- The leading exponents that are written without an exponent, as a half-open range; `none` is
  all of them. -/
  positional : Option (Int × Int)
  /-- A whole number is written with one zero after the point. -/
  keepsPoint : Bool
  /-- A positive exponent is written with its sign. -/
  signsExponent : Bool
  notANumber : String
  infinity : String

/-- Digits without an exponent. -/
def writePositional (keepsPoint : Bool) (d : Decimal) : String :=
  let ds := digits d.coefficient
  let zeros (n : Nat) : List Char := List.replicate n '0'
  let whole := if keepsPoint then ".0" else ""
  if 0 ≤ d.exponent then String.ofList (ds ++ zeros d.exponent.toNat) ++ whole
  else
    let places := (-d.exponent).toNat
    if places < ds.length then
      String.ofList (ds.take (ds.length - places) ++ '.' :: ds.drop (ds.length - places))
    else String.ofList ('0' :: '.' :: zeros (places - ds.length) ++ ds)

/-- One digit before the point, the others after it, and the exponent of the first. -/
def writeScientific (signsExponent : Bool) (d : Decimal) : String :=
  let mantissa :=
    match digits d.coefficient with
    | first :: second :: rest => first :: '.' :: second :: rest
    | ds => ds
  let sign := if signsExponent && decide (0 ≤ d.leadingExponent) then "+" else ""
  String.ofList mantissa ++ "e" ++ sign ++ toString d.leadingExponent

namespace Layout

/-- The written form of a decimal that is not negative. -/
def write (l : Layout) (d : Decimal) : String :=
  match l.positional with
  | none => writePositional l.keepsPoint d
  | some (low, high) =>
    if d.coefficient = 0 ∨ (low ≤ d.leadingExponent ∧ d.leadingExponent < high) then
      writePositional l.keepsPoint d
    else writeScientific l.signsExponent d

/-- The written form of a binary number: the sign, then the shortest decimal form. -/
def text {f : BinaryFormat} (l : Layout) (x : Binary f) : String :=
  let signed (negative : Bool) (s : String) := if negative then "-" ++ s else s
  match x.datum with
  | .notANumber => l.notANumber
  | .infinite negative => signed negative l.infinity
  | .finite negative m e =>
    if m = 0 then signed negative (l.write ⟨0, 0⟩)
    else signed negative (l.write (shortest l.tie f m e))

end Layout

end RecordMapper.Decimal
