import RecordMapper.Store.Cell

/-!
# Stored values

The form in which a store keeps a column value, and that fields survive it: what is written into a
column in its own form is read back from the stored form as the same content. The exceptions are
single-precision reals, which change their width, and reals that are no numbers.

Integers change their type on the way, and it is checked that they fit there: an integer that comes
through in either direction is the integer that went in.
-/

namespace RecordMapper

namespace Instant

/-- An instant is told by its distance from the epoch. -/
theorem sinceEpoch_inj {s t : Instant} (h : s.sinceEpoch = t.sinceEpoch) : s = t := by
  have hs := s.nanos_lt
  have ht := t.nanos_lt
  simp only [sinceEpoch] at h
  apply Instant.ext <;> omega

theorem ofNanos_of_toNanos? {t : Instant} {n : Integer64} (h : t.toNanos? = some n) :
    ofNanos n = t := by
  obtain ⟨distance, hd, hn⟩ := Option.bind_eq_some_iff.1 h
  have hd := Bounded.ofInt?_eq_some_iff.1 hd
  have hn := Bounded.ofInt?_eq_some_iff.1 hn
  apply sinceEpoch_inj
  rw [sinceEpoch_ofNanos, hn, hd]
  split <;> omega

end Instant

namespace Value

/-- The form in which a store keeps a value: booleans are zero or one, instants their nanoseconds,
and a real that is no number is null. -/
def stored : Value → Value
  | bool b => integer (.clamp .i64 (if b then 1 else 0))
  | timestamp t => (t.toNanos?.map integer).getD (timestamp t)
  | real r => if r.isNaN then null else real r
  | null => null
  | integer i => integer i
  | text s => text s

/-- The value can be handed to a store. -/
def Bindable (v : Value) : Prop :=
  ∃ c, Cell.ofValue v = .ok c

/-- A real that is no number. -/
def IsNaN (v : Value) : Prop :=
  ∃ r, v = real r ∧ r.isNaN

/-- The stored form is what the store reads back from the cell of the value. -/
theorem toValue_kept {v : Value} {c : Cell} (h : Cell.ofValue v = .ok c) :
    c.kept.toValue = .ok v.stored := by
  cases v with
  | null | integer | bool => cases h; rfl
  | text s =>
    cases h
    simp [Cell.kept, Cell.toValue, stored, Text.Utf8.decode_encode]
  | real r =>
    cases h
    by_cases hr : r.isNaN <;> simp [Cell.kept, Cell.toValue, stored, hr]
  | timestamp t =>
    cases ht : t.toNanos? with
    | none => simp [Cell.ofValue, Instant.toNanos, ht, Except.map] at h
    | some n =>
      simp only [Cell.ofValue, Instant.toNanos, ht, Except.map] at h
      cases h
      simp [Cell.kept, Cell.toValue, stored, ht]

/-- The store keeps the cell of a value as it is handed over, unless it is no number. -/
theorem kept_eq_of_not_isNaN {v : Value} {c : Cell} (h : Cell.ofValue v = .ok c)
    (hn : ¬ v.IsNaN) : c.kept = c := by
  cases c with
  | real r =>
    have hr : ¬ r.isNaN := by
      intro hr
      cases v with
      | real r' =>
        cases h
        exact hn ⟨r, rfl, hr⟩
      | timestamp t =>
        cases ht : t.toNanos? <;> simp [Cell.ofValue, Instant.toNanos, ht, Except.map] at h
      | null | integer | text | bool => cases h
    simp [Cell.kept, hr]
  | null | integer | text | blob => rfl

end Value

namespace Bounded

variable {t u : IntegerType}

theorem cast?_eq_some_iff {x : Bounded t} {y : Bounded u} :
    x.cast? u = some y ↔ y.val = x.val :=
  ofInt?_eq_some_iff

theorem exists_cast?_iff {x : Bounded t} :
    (∃ y, x.cast? u = some y) ↔ u.least ≤ x.val ∧ x.val ≤ u.greatest := by
  rw [← Option.ne_none_iff_exists', ne_eq, cast?, ofInt?_eq_none_iff, Decidable.not_not]

end Bounded

/-- No type has integers below those of a column. -/
theorem IntegerType.least_i64_le (t : IntegerType) : i64.least ≤ t.least := by
  cases t <;> decide

namespace ScalarType

variable {s : ScalarType} {v : Value}

/-! ## Integers -/

section Integers

variable {t : IntegerType} {x : Bounded t} {i : Integer64}

theorem fromValue_integer_eq_ok_iff :
    fromValue (.integer t) (.integer i) = .ok x ↔ x.val = i.val := by
  rw [← Bounded.cast?_eq_some_iff]
  cases hi : i.cast? t with
  | none => simp [fromValue, hi]
  | some y => simp [fromValue, hi]

theorem toValue_integer_eq_ok_iff :
    toValue (.integer t) x = .ok (.integer i) ↔ i.val = x.val := by
  rw [← Bounded.cast?_eq_some_iff]
  cases hx : x.cast? .i64 with
  | none => simp [toValue, hx]
  | some y => simp [toValue, hx]

/-- A column integer is read into a type exactly when it is in range there. -/
theorem exists_fromValue_integer_iff :
    (∃ x, fromValue (.integer t) (.integer i) = .ok x) ↔ t.least ≤ i.val ∧ i.val ≤ t.greatest := by
  rw [← Bounded.exists_cast?_iff]
  constructor
  · rintro ⟨x, hx⟩
    exact ⟨x, Bounded.cast?_eq_some_iff.2 (fromValue_integer_eq_ok_iff.1 hx)⟩
  · rintro ⟨x, hx⟩
    exact ⟨x, fromValue_integer_eq_ok_iff.2 (Bounded.cast?_eq_some_iff.1 hx)⟩

/-- An integer has a column form exactly when it does not exceed those of a column. -/
theorem exists_toValue_integer_iff :
    (∃ v, toValue (.integer t) x = .ok v) ↔ x.val ≤ IntegerType.i64.greatest := by
  have hlow : IntegerType.i64.least ≤ x.val := Int.le_trans t.least_i64_le x.least_le
  have hcast := Bounded.exists_cast?_iff (u := .i64) (x := x)
  constructor
  · rintro ⟨v, hv⟩
    cases hx : x.cast? .i64 with
    | none => simp [toValue, hx] at hv
    | some y => exact (hcast.1 ⟨y, hx⟩).2
  · intro hhigh
    obtain ⟨y, hy⟩ := hcast.2 ⟨hlow, hhigh⟩
    exact ⟨.integer y, toValue_integer_eq_ok_iff.2 (Bounded.cast?_eq_some_iff.1 hy)⟩

end Integers

theorem toValue_integer {t : IntegerType} {x : Bounded t}
    (h : toValue (.integer t) x = .ok v) : ∃ i, v = .integer i ∧ i.val = x.val := by
  cases hx : x.cast? .i64 with
  | none => simp [toValue, hx] at h
  | some i =>
    simp only [toValue, hx] at h
    exact ⟨i, (Except.ok.inj h).symm, Bounded.ofInt?_eq_some_iff.1 hx⟩

theorem toValue_timestamp {t : Instant} (h : toValue .timestamp t = .ok v) :
    v = .timestamp t ∧ ∃ n, t.toNanos? = some n := by
  cases ht : t.toNanos? with
  | none => simp [toValue, Instant.toNanos, ht, Except.map] at h
  | some n =>
    simp only [toValue, Instant.toNanos, ht, Except.map] at h
    exact ⟨(Except.ok.inj h).symm, n, rfl⟩

theorem bindable_of_toValue {x : s.Carrier} (h : s.toValue x = .ok v) : v.Bindable := by
  cases s with
  | integer t =>
    obtain ⟨i, rfl, -⟩ := toValue_integer h
    exact ⟨_, rfl⟩
  | timestamp =>
    obtain ⟨rfl, n, ht⟩ := toValue_timestamp h
    exact ⟨.integer n, by simp [Cell.ofValue, Instant.toNanos, ht, Except.map]⟩
  | single | double | bool | text =>
    cases h
    exact ⟨_, rfl⟩

/-- The content of a field is read back from its column form. -/
theorem fromValue_toValue (hs : s ≠ .single) {x : s.Carrier} (h : s.toValue x = .ok v) :
    s.fromValue v = .ok x := by
  cases s with
  | single => exact absurd rfl hs
  | integer t =>
    obtain ⟨i, rfl, hi⟩ := toValue_integer h
    exact fromValue_integer_eq_ok_iff.2 hi.symm
  | timestamp =>
    obtain ⟨rfl, -⟩ := toValue_timestamp h
    rfl
  | double | bool | text =>
    cases h
    rfl

/-- The content of a field is read back from its stored form, unless it is no number. -/
theorem fromValue_stored (hs : s ≠ .single) {x : s.Carrier} (h : s.toValue x = .ok v)
    (hn : ¬ v.IsNaN) : s.fromValue v.stored = .ok x := by
  cases s with
  | single => exact absurd rfl hs
  | integer t =>
    obtain ⟨i, rfl, hi⟩ := toValue_integer h
    have hc : i.cast? t = some x := Bounded.ofInt?_eq_some_iff.2 hi.symm
    simp only [Value.stored, fromValue, hc]
  | double =>
    cases h
    have hr : ¬ x.isNaN := fun hr => hn ⟨x, rfl, hr⟩
    simp only [Value.stored, hr, if_false, Bool.false_eq_true]
    rfl
  | bool =>
    cases h
    cases x <;> rfl
  | text =>
    cases h
    rfl
  | timestamp =>
    obtain ⟨rfl, n, ht⟩ := toValue_timestamp h
    simp only [Value.stored, ht, Option.map_some, Option.getD_some, fromValue,
      Instant.ofNanos_of_toNanos? ht]

end ScalarType

namespace FieldType

/-- The type of the content that a field has when it has any. -/
def scalarType : FieldType → ScalarType
  | scalar s | optional s => s

theorem bindable_of_toValue {t : FieldType} {x : t.Carrier} {v : Value}
    (h : t.toValue x = .ok v) : v.Bindable := by
  cases t with
  | scalar s => exact ScalarType.bindable_of_toValue h
  | optional s =>
    cases x with
    | none => cases h; exact ⟨_, rfl⟩
    | some x => exact ScalarType.bindable_of_toValue h

/-- What is read as the content of a present field is read so where the field may be absent. -/
theorem fromValue_optional {s : ScalarType} {v : Value} {x : s.Carrier}
    (h : s.fromValue v = .ok x) : (optional s).fromValue v = .ok (some x) := by
  cases v
  case null => cases s <;> cases h
  all_goals
    rw [fromValue, h]
    · rfl
    · exact nofun

/-- The content of a field is read back from its column form, whether it is there or not. -/
theorem fromValue_toValue {t : FieldType} (ht : t.scalarType ≠ .single) {x : t.Carrier} {v : Value}
    (h : t.toValue x = .ok v) : t.fromValue v = .ok x := by
  cases t with
  | scalar s => exact ScalarType.fromValue_toValue ht h
  | optional s =>
    cases x with
    | none =>
      cases h
      rfl
    | some x =>
      have hx : s.fromValue v = .ok x := ScalarType.fromValue_toValue ht h
      exact fromValue_optional hx

/-- The content of a field is read back from its stored form, whether it is there or not. -/
theorem fromValue_stored {t : FieldType} (ht : t.scalarType ≠ .single) {x : t.Carrier}
    {v : Value} (h : t.toValue x = .ok v) (hn : ¬ v.IsNaN) : t.fromValue v.stored = .ok x := by
  cases t with
  | scalar s => exact ScalarType.fromValue_stored ht h hn
  | optional s =>
    cases x with
    | none =>
      cases h
      rfl
    | some x =>
      have hx : s.fromValue v.stored = .ok x := ScalarType.fromValue_stored ht h hn
      exact fromValue_optional hx

/-- Column values survive the store. The column form of a field is read back as the content of the
field, and so is what the store gives back of the cell that it is kept in; a cell can always be
made of it. Integers are range checked on both ways and never changed: an integer is read from a
column exactly when the type has it, an integer has a column form exactly when a column has it, and
both are the same integer. -/
theorem survives_store :
    (∀ t : FieldType, t.scalarType ≠ .single → ∀ (x : t.Carrier) (v : Value),
      t.toValue x = .ok v → ¬ v.IsNaN →
      t.fromValue v = .ok x ∧
        ∃ (c : Cell) (y : Value), Cell.ofValue v = .ok c ∧ c.kept = c ∧ c.toValue = .ok y ∧
          t.fromValue y = .ok x) ∧
    (∀ (t : IntegerType) (i : Integer64),
      ((∃ x, ScalarType.fromValue (.integer t) (.integer i) = .ok x) ↔
        t.least ≤ i.val ∧ i.val ≤ t.greatest) ∧
      ∀ x, ScalarType.fromValue (.integer t) (.integer i) = .ok x →
        x.val = i.val ∧ ScalarType.toValue (.integer t) x = .ok (.integer i)) ∧
    ∀ (t : IntegerType) (x : Bounded t),
      ((∃ v, ScalarType.toValue (.integer t) x = .ok v) ↔ x.val ≤ IntegerType.i64.greatest) ∧
      ∀ v, ScalarType.toValue (.integer t) x = .ok v → ∃ i, v = .integer i ∧ i.val = x.val := by
  refine ⟨?_, ?_, ?_⟩
  · intro t ht x v hv hn
    obtain ⟨c, hc⟩ := bindable_of_toValue hv
    have hkept := Value.kept_eq_of_not_isNaN hc hn
    have hread := Value.toValue_kept hc
    rw [hkept] at hread
    exact ⟨fromValue_toValue ht hv, c, v.stored, hc, hkept, hread, fromValue_stored ht hv hn⟩
  · intro t i
    refine ⟨ScalarType.exists_fromValue_integer_iff, fun x hx => ?_⟩
    have hval := ScalarType.fromValue_integer_eq_ok_iff.1 hx
    exact ⟨hval, ScalarType.toValue_integer_eq_ok_iff.2 hval.symm⟩
  · intro t x
    exact ⟨ScalarType.exists_toValue_integer_iff, fun v hv => ScalarType.toValue_integer hv⟩

/-- The greatest unsigned integer of a column and an instant a nanosecond before the epoch survive
the store, each in a field that may be absent; an integer that is one too great for a byte is not
read into one. -/
theorem survives_store_edges :
    let great : Bounded .u64 := ⟨9223372036854775807, by decide, by decide⟩
    let before : Instant := ⟨-1, 999999999, by decide⟩
    (∃ c y, Cell.ofValue (.integer (.clamp _ 9223372036854775807)) = .ok c ∧ c.toValue = .ok y ∧
      (optional (.integer .u64)).fromValue y = .ok (some great)) ∧
    (∃ c y, Cell.ofValue (.timestamp before) = .ok c ∧ c.toValue = .ok y ∧
      (optional .timestamp).fromValue y = .ok (some before)) ∧
    ¬ ∃ x, ScalarType.fromValue (.integer .u8) (.integer (.clamp _ 256)) = .ok x := by
  intro great before
  obtain ⟨hfields, hintegers, -⟩ := survives_store
  obtain ⟨-, c, y, hc, -, hy, hread⟩ := hfields (.optional (.integer .u64)) nofun (some great)
    (.integer (.clamp _ 9223372036854775807)) rfl (by simp [Value.IsNaN])
  obtain ⟨-, c', y', hc', -, hy', hread'⟩ := hfields (.optional .timestamp) nofun (some before)
    (.timestamp before) rfl (by simp [Value.IsNaN])
  refine ⟨⟨c, y, hc, hy, hread⟩, ⟨c', y', hc', hy', hread'⟩, fun hx => ?_⟩
  have hrange := (hintegers .u8 (.clamp _ 256)).1.1 hx
  exact absurd hrange.2 (by decide)

end FieldType

end RecordMapper
