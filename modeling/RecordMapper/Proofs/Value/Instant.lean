import RecordMapper.Proofs.Value.Stored

/-!
# Instants as nanoseconds

Counting the nanoseconds of an instant and making an instant of a count undo each other, but for one
instant. The count of an instant before the epoch is the opposite of its distance, and the distance
that belongs to the least integer does not fit. So the instant that the least integer stands for can
be made but not counted, and all other instants in the span of the integers can.
-/

namespace RecordMapper.Instant

variable {t : Instant} {n : Integer64}

theorem natAbs_fits_iff :
    (∃ distance, Bounded.ofInt? .i64 (t.sinceEpoch.natAbs : Int) = some distance) ↔
      IntegerType.i64.least < t.sinceEpoch ∧ t.sinceEpoch ≤ IntegerType.i64.greatest := by
  rw [← Option.ne_none_iff_exists', ne_eq, Bounded.ofInt?_eq_none_iff, Decidable.not_not]
  simp only [IntegerType.least, IntegerType.greatest]
  omega

/-- The count of an instant is its distance from the epoch, with the sign of its side. The least
integer is no count. -/
theorem toNanos?_eq_some_iff :
    t.toNanos? = some n ↔ n.val = t.sinceEpoch ∧ n.val ≠ IntegerType.i64.least := by
  constructor
  · intro h
    obtain ⟨distance, hd, hn⟩ := Option.bind_eq_some_iff.1 h
    have hfits := natAbs_fits_iff.1 ⟨distance, hd⟩
    have hval : n.val = t.sinceEpoch := by
      rw [← ofNanos_of_toNanos? h, sinceEpoch_ofNanos]
    refine ⟨hval, ?_⟩
    rw [hval]
    exact (Int.ne_of_lt hfits.1).symm
  · rintro ⟨hval, hne⟩
    have hlow : IntegerType.i64.least < t.sinceEpoch := by
      have := n.least_le
      omega
    obtain ⟨distance, hd⟩ := natAbs_fits_iff.2 ⟨hlow, hval ▸ n.le_greatest⟩
    refine Option.bind_eq_some_iff.2 ⟨distance, hd, ?_⟩
    have hdistance := Bounded.ofInt?_eq_some_iff.1 hd
    rw [Bounded.ofInt?_eq_some_iff, hval, hdistance]
    split <;> omega

theorem toNanos_eq_ok_iff : t.toNanos = .ok n ↔ t.toNanos? = some n := by
  unfold toNanos
  cases t.toNanos? <;> simp

/-- An instant that has no count is named by the error. -/
theorem toNanos_eq_error_iff {cause : ConversionError} :
    t.toNanos = .error cause ↔ t.toNanos? = none ∧ cause = .instantOutOfRange t := by
  unfold toNanos
  cases t.toNanos? <;> simp [eq_comm]

theorem exists_toNanos_iff :
    (∃ n, t.toNanos = .ok n) ↔
      IntegerType.i64.least < t.sinceEpoch ∧ t.sinceEpoch ≤ IntegerType.i64.greatest := by
  constructor
  · rintro ⟨n, hn⟩
    obtain ⟨hval, hne⟩ := toNanos?_eq_some_iff.1 (toNanos_eq_ok_iff.1 hn)
    have hlow := n.least_le
    have hhigh := n.le_greatest
    omega
  · rintro ⟨hlow, hhigh⟩
    let n : Integer64 := ⟨t.sinceEpoch, Int.le_of_lt hlow, hhigh⟩
    have hn : t.toNanos? = some n := toNanos?_eq_some_iff.2 ⟨rfl, (Int.ne_of_lt hlow).symm⟩
    exact ⟨n, toNanos_eq_ok_iff.2 hn⟩

theorem seconds_ofNanos (n : Integer64) :
    IntegerType.i64.least ≤ (ofNanos n).seconds ∧
      (ofNanos n).seconds ≤ IntegerType.i64.greatest := by
  have hlow := n.least_le
  have hhigh := n.le_greatest
  simp only [IntegerType.least, IntegerType.greatest, ofNanos] at *
  omega

/-- The one instant in the span of the integers that is not counted. -/
theorem toNanos_ofNanos_of_least (h : n.val = IntegerType.i64.least) :
    (ofNanos n).toNanos = .error (.instantOutOfRange (ofNanos n)) := by
  refine toNanos_eq_error_iff.2 ⟨?_, rfl⟩
  cases hn : (ofNanos n).toNanos? with
  | none => rfl
  | some m =>
    obtain ⟨hval, hne⟩ := toNanos?_eq_some_iff.1 hn
    rw [hval, sinceEpoch_ofNanos] at hne
    exact absurd h hne

theorem toNanos_ofNanos_iff : (ofNanos n).toNanos = .ok n ↔ n.val ≠ IntegerType.i64.least := by
  rw [toNanos_eq_ok_iff, toNanos?_eq_some_iff, sinceEpoch_ofNanos]
  exact and_iff_right rfl

/-- Counts and instants. An integer stands for the one instant that is as many nanoseconds from the
epoch, and this instant is counted as the integer, unless it is the least one, whose instant is not
counted. An instant is counted exactly if its nanoseconds are in the range of the integers without
the least one; its count stands for the instant again, and without one the error names it. -/
theorem nanos_inverse (n : Integer64) (t : Instant) :
    (t.sinceEpoch = n.val ↔ t = ofNanos n) ∧
    (IntegerType.i64.least ≤ (ofNanos n).seconds ∧
      (ofNanos n).seconds ≤ IntegerType.i64.greatest) ∧
    ((ofNanos n).toNanos = .ok n ↔ n.val ≠ IntegerType.i64.least) ∧
    (n.val = IntegerType.i64.least →
      (ofNanos n).toNanos = .error (.instantOutOfRange (ofNanos n))) ∧
    ((∃ m, t.toNanos = .ok m) ↔
      IntegerType.i64.least < t.sinceEpoch ∧ t.sinceEpoch ≤ IntegerType.i64.greatest) ∧
    (∀ m, t.toNanos = .ok m → ofNanos m = t) ∧
    ((¬ ∃ m, t.toNanos = .ok m) → t.toNanos = .error (.instantOutOfRange t)) := by
  refine ⟨⟨fun h => ?_, ?_⟩, seconds_ofNanos n, toNanos_ofNanos_iff, toNanos_ofNanos_of_least,
    exists_toNanos_iff, fun m hm => ?_, fun h => ?_⟩
  · apply sinceEpoch_inj
    rw [h, sinceEpoch_ofNanos]
  · rintro rfl
    exact sinceEpoch_ofNanos n
  · exact ofNanos_of_toNanos? (toNanos_eq_ok_iff.1 hm)
  · cases ht : t.toNanos with
    | ok m => exact absurd ⟨m, ht⟩ h
    | error cause => rw [(toNanos_eq_error_iff.1 ht).2]

/-- The least count that there is, of an instant whose seconds are rounded down. -/
theorem nanos_inverse_earliest :
    let n : Integer64 := ⟨-9223372036854775807, by decide, by decide⟩
    let t : Instant := ⟨-9223372037, 145224193, by decide⟩
    n.val ≠ IntegerType.i64.least ∧ ofNanos n = t ∧ t.toNanos = .ok n := by
  intro n t
  have hne : n.val ≠ IntegerType.i64.least := by decide
  obtain ⟨hat, -, hcount, -, -, hback, -⟩ := nanos_inverse n t
  have ht : t = ofNanos n := hat.1 (by decide)
  have hok : t.toNanos = .ok n := ht ▸ hcount.2 hne
  exact ⟨hne, hback n hok, hok⟩

/-- The instant of the least integer has its nanoseconds in the range of the integers and is not
counted. -/
theorem nanos_not_inverse_at_least :
    let n : Integer64 := ⟨-9223372036854775808, by decide, by decide⟩
    (IntegerType.i64.least ≤ (ofNanos n).sinceEpoch ∧
      (ofNanos n).sinceEpoch ≤ IntegerType.i64.greatest) ∧
    (ofNanos n).toNanos ≠ .ok n ∧ ¬ ∃ m, (ofNanos n).toNanos = .ok m := by
  intro n
  have herror : (ofNanos n).toNanos = .error (.instantOutOfRange (ofNanos n)) :=
    toNanos_ofNanos_of_least rfl
  have hnone : ¬ ∃ m, (ofNanos n).toNanos = .ok m := by
    rintro ⟨m, hm⟩
    cases herror.symm.trans hm
  exact ⟨by decide, fun h => hnone ⟨n, h⟩, hnone⟩

end RecordMapper.Instant
