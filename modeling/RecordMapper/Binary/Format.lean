/-!
# Binary floating-point formats

A bit pattern of a binary interchange format is a sign bit, an exponent field and a fraction
field. `BinaryFormat.decode` reads a pattern as an exact number, `BinaryFormat.round` finds the
pattern nearest to a quotient of natural numbers, ties going to the even pattern. All arithmetic
is exact, on natural numbers.
-/

namespace RecordMapper

/-- The field widths of a binary interchange format. -/
structure BinaryFormat where
  fractionBits : Nat
  exponentBits : Nat
deriving DecidableEq, Repr

namespace BinaryFormat

/-- Thirty-two bits. -/
def single : BinaryFormat := ⟨23, 8⟩

/-- Sixty-four bits. -/
def double : BinaryFormat := ⟨52, 11⟩

/-- The number of bits of a pattern. -/
def width (f : BinaryFormat) : Nat :=
  f.exponentBits + f.fractionBits + 1

/-- The pattern of negative zero; a pattern at or above it is negative. -/
def signBit (f : BinaryFormat) : Nat :=
  Nat.pow 2 (f.exponentBits + f.fractionBits)

/-- The pattern of positive infinity; a magnitude above it is not a number. -/
def infinity (f : BinaryFormat) : Nat :=
  (Nat.pow 2 f.exponentBits - 1) * Nat.pow 2 f.fractionBits

/-- The exponent of the smallest positive number, of which every finite number is a multiple. -/
def quantum (f : BinaryFormat) : Int :=
  2 - (Nat.pow 2 (f.exponentBits - 1) : Nat) - f.fractionBits

/-- What a bit pattern denotes; a finite number is `± significand * 2 ^ exponent`. -/
inductive Datum where
  | notANumber
  | infinite (negative : Bool)
  | finite (negative : Bool) (significand : Nat) (exponent : Int)
deriving DecidableEq, Repr

/-- The meaning of a bit pattern. -/
def decode (f : BinaryFormat) (bits : Nat) : Datum :=
  let negative := decide (f.signBit ≤ bits)
  let magnitude := bits % f.signBit
  if f.infinity < magnitude then .notANumber
  else if magnitude = f.infinity then .infinite negative
  else
    let field := magnitude / Nat.pow 2 f.fractionBits
    let fraction := magnitude % Nat.pow 2 f.fractionBits
    if field = 0 then .finite negative fraction f.quantum
    else .finite negative (fraction + Nat.pow 2 f.fractionBits) (f.quantum + (field - 1 : Nat))

/-- The natural number nearest to `num / den`, a half going to the even neighbour. -/
def nearestEven (num den : Nat) : Nat :=
  let q := num / den
  let r := num % den
  if 2 * r < den then q
  else if den < 2 * r then q + 1
  else if q % 2 = 0 then q else q + 1

/-- The largest `e` with `2 ^ e ≤ num / den`, for positive `num` and `den`. -/
def floorLog2 (num den : Nat) : Int :=
  let e : Int := (Nat.log2 num : Int) - Nat.log2 den
  let reaches := if 0 ≤ e then den * Nat.pow 2 e.toNat ≤ num else den ≤ num * Nat.pow 2 (-e).toNat
  if reaches then e else e - 1

/-- The magnitude pattern nearest to `num / den`, where `den` is positive. Patterns are ordered
like the numbers that they denote, so a significand that rounds up to a power of two carries into
the exponent field, and a quotient beyond the largest number gives infinity. -/
def round (f : BinaryFormat) (num den : Nat) : Nat :=
  if num = 0 then 0
  else
    let exponent := max (floorLog2 num den - f.fractionBits) f.quantum
    let significand :=
      if 0 ≤ exponent then nearestEven num (den * Nat.pow 2 exponent.toNat)
      else nearestEven (num * Nat.pow 2 (-exponent).toNat) den
    min ((exponent - f.quantum).toNat * Nat.pow 2 f.fractionBits + significand) f.infinity

end BinaryFormat

end RecordMapper
