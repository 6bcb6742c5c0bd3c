import RecordMapper.Binary.Basic
import RecordMapper.Decimal.Basic

/-!
# Reading numbers

`Decimal.readInteger?` reads an optional sign and digits; `Decimal.readBinary?` reads a decimal
number with an optional point and exponent, or one of the words for infinity and NaN. The value
read is the binary number nearest to the decimal.
-/

namespace RecordMapper.Decimal

/-- One of the ten decimal digits. -/
def isDigit (c : Char) : Bool :=
  decide ('0' ≤ c) && decide (c ≤ '9')

/-- The number that a row of digits denotes. -/
def ofDigits (cs : List Char) : Nat :=
  cs.foldl (fun n c => 10 * n + (c.toNat - '0'.toNat)) 0

/-- Splits off a leading sign, telling whether it is a minus. -/
def splitSign : List Char → Bool × List Char
  | '-' :: cs => (true, cs)
  | '+' :: cs => (false, cs)
  | cs => (false, cs)

/-- An optional sign and one or more digits. -/
def readInteger? (cs : List Char) : Option Int :=
  let (negative, ds) := splitSign cs
  if ds ≠ [] ∧ ds.all isDigit then
    some (if negative then -(ofDigits ds : Int) else ofDigits ds)
  else none

/-- The binary number nearest to `± coefficient * 10 ^ exponent`. Beyond a thousand places on either
side the result is zero or infinite whatever the digits, and no power is computed. -/
def toBinary (f : BinaryFormat) (negative : Bool) (d : Decimal) : Binary f :=
  if d.coefficient = 0 ∨ d.leadingExponent < -1000 then Binary.ofQuotient f negative 0 1
  else if 1000 < d.leadingExponent then Binary.infinite f negative
  else Binary.ofQuotient f negative (d.coefficient * Nat.pow 10 d.exponent.toNat)
    (Nat.pow 10 (-d.exponent).toNat)

/-- The digits of an exponent after its `e`: an optional sign and one or more digits. -/
def readExponent? : List Char → Option Int
  | [] => some 0
  | c :: cs => if c = 'e' ∨ c = 'E' then readInteger? cs else none

/-- Digits with at most one point and at least one digit, then an optional exponent. -/
def readDecimal? (cs : List Char) : Option Decimal :=
  let whole := cs.takeWhile isDigit
  let rest := cs.dropWhile isDigit
  let (fraction, tail) :=
    match rest with
    | '.' :: more => (more.takeWhile isDigit, more.dropWhile isDigit)
    | _ => ([], rest)
  if whole = [] ∧ fraction = [] then none
  else (readExponent? tail).map fun e => ⟨ofDigits (whole ++ fraction), e - fraction.length⟩

/-- An unsigned number: a word for infinity or NaN in any case of its letters, or a decimal. -/
def readMagnitude? (f : BinaryFormat) (negative : Bool) (cs : List Char) : Option (Binary f) :=
  let word := cs.map Char.toLower
  if word = ['i', 'n', 'f'] ∨ word = ['i', 'n', 'f', 'i', 'n', 'i', 't', 'y'] then
    some (Binary.infinite f negative)
  else if word = ['n', 'a', 'n'] then some (Binary.notANumber f)
  else (readDecimal? cs).map (toBinary f negative)

/-- An optional sign and an unsigned number. -/
def readBinary? (f : BinaryFormat) (cs : List Char) : Option (Binary f) :=
  let (negative, rest) := splitSign cs
  readMagnitude? f negative rest

end RecordMapper.Decimal
