/-!
# Bounded integers

The integer types that a record field can have, each with its least and greatest value. A
`Bounded t` is an integer in the range of `t`; `Bounded.cast?` moves it to another type when it
fits there.
-/

namespace RecordMapper

/-- The integer types, signed and unsigned, of eight to sixty-four bits. `usize` counts things in
memory and has sixty-four bits. -/
inductive IntegerType where
  | i8 | i16 | i32 | i64
  | u8 | u16 | u32 | u64
  | usize
deriving DecidableEq, Repr

namespace IntegerType

/-- The name of the type in messages. -/
def name : IntegerType → String
  | i8 => "i8"
  | i16 => "i16"
  | i32 => "i32"
  | i64 => "i64"
  | u8 => "u8"
  | u16 => "u16"
  | u32 => "u32"
  | u64 => "u64"
  | usize => "usize"

/-- The least value. -/
def least : IntegerType → Int
  | i8 => -128
  | i16 => -32768
  | i32 => -2147483648
  | i64 => -9223372036854775808
  | u8 | u16 | u32 | u64 | usize => 0

/-- The greatest value. -/
def greatest : IntegerType → Int
  | i8 => 127
  | i16 => 32767
  | i32 => 2147483647
  | i64 => 9223372036854775807
  | u8 => 255
  | u16 => 65535
  | u32 => 4294967295
  | u64 | usize => 18446744073709551615

theorem least_nonpos (t : IntegerType) : t.least ≤ 0 := by
  cases t <;> decide

theorem greatest_nonneg (t : IntegerType) : 0 ≤ t.greatest := by
  cases t <;> decide

end IntegerType

/-- An integer in the range of `t`. -/
structure Bounded (t : IntegerType) where
  val : Int
  least_le : t.least ≤ val
  le_greatest : val ≤ t.greatest
deriving DecidableEq

/-- The integers that a column holds. -/
abbrev Integer64 := Bounded .i64

namespace Bounded

variable {t : IntegerType}

/-- The integer as a member of `t`, if it is in range. -/
def ofInt? (t : IntegerType) (i : Int) : Option (Bounded t) :=
  if h : t.least ≤ i ∧ i ≤ t.greatest then some ⟨i, h.1, h.2⟩ else none

/-- The same integer in another type, if it is in range there. -/
def cast? (u : IntegerType) (x : Bounded t) : Option (Bounded u) :=
  ofInt? u x.val

/-- The member of `t` nearest to an integer. -/
def clamp (t : IntegerType) (i : Int) : Bounded t :=
  ⟨max t.least (min i t.greatest), by omega, by
    have := t.least_nonpos; have := t.greatest_nonneg; omega⟩

/-- Zero, which every type has. -/
def zero (t : IntegerType) : Bounded t :=
  ⟨0, t.least_nonpos, t.greatest_nonneg⟩

theorem ofInt?_eq_some_iff {i : Int} {x : Bounded t} : ofInt? t i = some x ↔ x.val = i := by
  unfold ofInt?
  split
  · constructor
    · intro h; cases h; rfl
    · rintro rfl; rfl
  · rename_i h
    constructor
    · intro h'; cases h'
    · rintro rfl; exact absurd ⟨x.least_le, x.le_greatest⟩ h

theorem ofInt?_val (x : Bounded t) : ofInt? t x.val = some x :=
  ofInt?_eq_some_iff.2 rfl

theorem ofInt?_eq_none_iff {i : Int} :
    ofInt? t i = none ↔ ¬ (t.least ≤ i ∧ i ≤ t.greatest) := by
  unfold ofInt?
  split <;> simp_all

end Bounded

end RecordMapper
