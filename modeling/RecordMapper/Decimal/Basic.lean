/-!
# Decimal numbers

A decimal number is a natural coefficient times a power of ten.
-/

namespace RecordMapper

/-- The number `coefficient * 10 ^ exponent`. -/
structure Decimal where
  coefficient : Nat
  exponent : Int
deriving DecidableEq, Repr

namespace Decimal

/-- The decimal digits of a natural number, the most significant first. -/
def digits (n : Nat) : List Char :=
  Nat.toDigits 10 n

/-- Drops trailing zeros of the coefficient, at most `fuel` of them. -/
def stripZeros : (fuel : Nat) → Decimal → Decimal
  | 0, d => d
  | fuel + 1, d =>
    if d.coefficient ≠ 0 ∧ d.coefficient % 10 = 0 then
      stripZeros fuel ⟨d.coefficient / 10, d.exponent + 1⟩
    else d

/-- The same number with the shortest coefficient. -/
def normalize (d : Decimal) : Decimal :=
  stripZeros (digits d.coefficient).length d

/-- The power of ten of the leading digit. -/
def leadingExponent (d : Decimal) : Int :=
  d.exponent + ((digits d.coefficient).length - 1 : Nat)

end Decimal

end RecordMapper
