import RecordMapper.Binary.Format

/-!
# Binary floating-point numbers

`Binary f` is a bit pattern of the format `f`. Equality of the type is equality of patterns;
`Binary.equal` is the numeric comparison, in which zeros are equal and nothing equals a pattern
that is not a number.
-/

namespace RecordMapper

/-- A floating-point number of the format `f`, kept as its bit pattern. -/
structure Binary (f : BinaryFormat) where
  bits : Nat
  bits_lt : bits < Nat.pow 2 f.width
deriving DecidableEq

/-- Single precision. -/
abbrev Binary32 := Binary .single

/-- Double precision. -/
abbrev Binary64 := Binary .double

namespace Binary

variable {f : BinaryFormat}

/-- The number with the lowest `f.width` bits of `n`. -/
def ofNat (f : BinaryFormat) (n : Nat) : Binary f :=
  ⟨n % Nat.pow 2 f.width, Nat.mod_lt _ (Nat.two_pow_pos _)⟩

/-- Positive zero. -/
def zero (f : BinaryFormat) : Binary f := ofNat f 0

/-- The quiet pattern that is not a number. -/
def notANumber (f : BinaryFormat) : Binary f :=
  ofNat f (f.infinity + Nat.pow 2 (f.fractionBits - 1))

/-- An infinity of the given sign. -/
def infinite (f : BinaryFormat) (negative : Bool) : Binary f :=
  ofNat f (if negative then f.signBit + f.infinity else f.infinity)

/-- What the number denotes. -/
def datum (x : Binary f) : BinaryFormat.Datum :=
  f.decode x.bits

/-- The pattern without its sign bit. -/
def magnitude (x : Binary f) : Nat :=
  x.bits % f.signBit

def isNaN (x : Binary f) : Bool :=
  decide (f.infinity < x.magnitude)

def isFinite (x : Binary f) : Bool :=
  decide (x.magnitude < f.infinity)

/-- Numeric equality: both zeros are equal, and nothing equals a pattern that is not a number. -/
def equal (x y : Binary f) : Bool :=
  !x.isNaN && !y.isNaN && (x.bits == y.bits || (x.magnitude == 0 && y.magnitude == 0))

/-- The number nearest to `± num / den`, where `den` is positive. -/
def ofQuotient (f : BinaryFormat) (negative : Bool) (num den : Nat) : Binary f :=
  ofNat f ((if negative then f.signBit else 0) + f.round num den)

/-- The number nearest to an integer. -/
def ofInt (f : BinaryFormat) (i : Int) : Binary f :=
  ofQuotient f (decide (i < 0)) i.natAbs 1

/-- The nearest number of another format. -/
def convert (g : BinaryFormat) (x : Binary f) : Binary g :=
  match x.datum with
  | .notANumber => notANumber g
  | .infinite negative => infinite g negative
  | .finite negative m e =>
    if 0 ≤ e then ofQuotient g negative (m * Nat.pow 2 e.toNat) 1
    else ofQuotient g negative m (Nat.pow 2 (-e).toNat)

/-- A finite number as a multiple of the smallest positive number of its format. -/
def ticks (x : Binary f) : Int :=
  match x.datum with
  | .finite negative m e =>
    let size : Int := (m * Nat.pow 2 (e - f.quantum).toNat : Nat)
    if negative then -size else size
  | _ => 0

/-- An integer as a multiple of the smallest positive number of the format. -/
def ticksOfInt (f : BinaryFormat) (i : Int) : Int :=
  i * (Nat.pow 2 (-f.quantum).toNat : Nat)

/-- The integer that a number is. -/
def toInt? (x : Binary f) : Option Int :=
  let one := ticksOfInt f 1
  if x.isFinite ∧ x.ticks % one = 0 then some (x.ticks / one) else none

/-- The order of a number other than NaN and an integer, both taken exactly. -/
def compareInt (x : Binary f) (i : Int) : Ordering :=
  match x.datum with
  | .infinite negative => if negative then .lt else .gt
  | _ => compare x.ticks (ticksOfInt f i)

/-- The numeric order of two numbers other than NaN. -/
def compareTo (x y : Binary f) : Ordering :=
  let rank : BinaryFormat.Datum → Int := fun
    | .infinite true => -1
    | .infinite false => 1
    | _ => 0
  (compare (rank x.datum) (rank y.datum)).then (compare x.ticks y.ticks)

end Binary

end RecordMapper
