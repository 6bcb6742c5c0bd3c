import RecordMapper.Binary.Basic
import RecordMapper.Decimal.Basic

/-!
# Shortest decimal form

The shortest decimal form of a binary number has the fewest digits of all decimals that round to
the number, and of those it is the nearest. A decimal rounds to the number when it lies in the
interval between the midpoints to the two neighbours, whose ends count when the significand is
even. Grids of one digit, two digits and so on are tried in turn; if a point of a grid lies in the
interval, so does one of the two grid points around the number itself.
-/

namespace RecordMapper.Decimal

/-- Which of two equally near decimals is taken. -/
inductive Tie where
  | up
  | toEven
deriving DecidableEq, Repr

/-- A positive binary number `middle * 2 ^ exponent` with the ends of its rounding interval. -/
structure Interval where
  low : Nat
  middle : Nat
  high : Nat
  exponent : Int
  closed : Bool
deriving Repr

/-- The rounding interval of `significand * 2 ^ exponent`. Below a power of two the neighbours are
twice as dense, unless the number is already among the smallest. -/
def Interval.ofBinary (f : BinaryFormat) (significand : Nat) (exponent : Int) : Interval :=
  let atPower := significand = Nat.pow 2 f.fractionBits ∧ f.quantum < exponent
  { low := if atPower then 4 * significand - 1 else 4 * significand - 2
    middle := 4 * significand
    high := 4 * significand + 2
    exponent := exponent - 2
    closed := significand % 2 = 0 }

namespace Interval

/-- The factors `(p, q)` with which `c * 10 ^ k` and `m * 2 ^ exponent` compare as `c * q` and
`m * p`. -/
def scale (i : Interval) (k : Int) : Nat × Nat :=
  (Nat.pow 2 i.exponent.toNat * Nat.pow 10 (-k).toNat,
    Nat.pow 2 (-i.exponent).toNat * Nat.pow 10 k.toNat)

/-- The decimal `c * 10 ^ k` rounds to the number. -/
def contains (i : Interval) (k : Int) (c : Nat) : Bool :=
  let (p, q) := i.scale k
  if i.closed then decide (i.low * p ≤ c * q) && decide (c * q ≤ i.high * p)
  else decide (i.low * p < c * q) && decide (c * q < i.high * p)

/-- The power of ten of the number's leading digit. -/
def leadingExponent (i : Interval) : Int :=
  let (p, q) := i.scale 0
  let num := i.middle * p
  let e : Int := ((digits num).length : Int) - (digits q).length
  let reaches := if 0 ≤ e then q * Nat.pow 10 e.toNat ≤ num else q ≤ num * Nat.pow 10 (-e).toNat
  if reaches then e else e - 1

/-- The nearest grid point of step `10 ^ k` among those that round to the number. -/
def onGrid (tie : Tie) (i : Interval) (k : Int) : Option Decimal :=
  let (p, q) := i.scale k
  let target := i.middle * p
  let c := target / q
  match i.contains k c, i.contains k (c + 1) with
  | false, false => none
  | true, false => some ⟨c, k⟩
  | false, true => some ⟨c + 1, k⟩
  | true, true =>
    match compare (2 * (target % q)) q with
    | .lt => some ⟨c, k⟩
    | .gt => some ⟨c + 1, k⟩
    | .eq =>
      match tie with
      | .up => some ⟨c + 1, k⟩
      | .toEven => some ⟨if c % 2 = 0 then c else c + 1, k⟩

/-- The grids of one to seventeen digits are tried in turn; seventeen always suffice in double
precision. -/
def shortest (tie : Tie) (i : Interval) : Decimal :=
  let e := i.leadingExponent
  let found := (List.range 17).findSome? fun (n : Nat) => i.onGrid tie (e - n)
  (found.getD ⟨i.middle, 0⟩).normalize

end Interval

/-- The shortest decimal form of the positive number `significand * 2 ^ exponent`. -/
def shortest (tie : Tie) (f : BinaryFormat) (significand : Nat) (exponent : Int) : Decimal :=
  (Interval.ofBinary f significand exponent).shortest tie

end RecordMapper.Decimal
