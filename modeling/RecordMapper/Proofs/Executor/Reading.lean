import RecordMapper.Session.Engine

/-!
# Reading a cursor

What `Cursor.consume` does in each of the five ways in which a row can be met: the cursor fails or
is exhausted, the row cannot be scanned, the row is refused, or the row is taken and the reading
goes on. `Engine.fold` is the opening of a cursor with such a reading.
-/

namespace RecordMapper

namespace Cursor

variable {α κ : Type} [Cursor κ] {take : Nat → List Value → α → Except Error α} {row : Nat}
  {acc acc' : α} {c c₁ c₂ : κ} {e : Error} {values : List Value}

theorem consume_of_advance_error (h : advance c = (.error e, c₁)) :
    consume take row acc c = ⟨.error e, acc, c₁, [.advance (.error e)]⟩ := by
  rw [consume]
  split <;> simp_all

theorem consume_of_exhausted (h : advance c = (.ok false, c₁)) :
    consume take row acc c = ⟨.ok (), acc, c₁, [.advance (.ok false)]⟩ := by
  rw [consume]
  split <;> simp_all

theorem consume_of_scan_error (h : advance c = (.ok true, c₁)) (hs : scan c₁ = (.error e, c₂)) :
    consume take row acc c =
      ⟨.error e, acc, c₂, [.advance (.ok true), .scan (.error e)]⟩ := by
  rw [consume]
  split
  · simp_all
  · simp_all
  · next h' =>
    cases h.symm.trans h'
    split <;> simp_all

theorem consume_of_refused (h : advance c = (.ok true, c₁)) (hs : scan c₁ = (.ok values, c₂))
    (ht : take (row + 1) values acc = .error e) :
    consume take row acc c =
      ⟨.error e, acc, c₂, [.advance (.ok true), .scan (.ok values)]⟩ := by
  rw [consume]
  split
  · simp_all
  · simp_all
  · next h' =>
    cases h.symm.trans h'
    split
    · simp_all
    · next hs' =>
      cases hs.symm.trans hs'
      simp only [ht]

theorem consume_of_taken (h : advance c = (.ok true, c₁)) (hs : scan c₁ = (.ok values, c₂))
    (ht : take (row + 1) values acc = .ok acc') :
    consume take row acc c =
      (consume take (row + 1) acc' c₂).after [.advance (.ok true), .scan (.ok values)] := by
  rw [consume]
  split
  · simp_all
  · simp_all
  · next h' =>
    cases h.symm.trans h'
    split
    · simp_all
    · next hs' =>
      cases hs.symm.trans hs'
      simp only [ht]

/-- Folds rows into a result; they are counted from `row + 1`. -/
def takeAll (take : Nat → List Value → α → Except Error α) (row : Nat) :
    List (List Value) → α → Except Error α
  | [], acc => .ok acc
  | values :: rows, acc => (take (row + 1) values acc).bind (takeAll take (row + 1) rows)

/-- A reading makes no calls but those that advance the cursor and scan rows. -/
theorem consume_calls (take : Nat → List Value → α → Except Error α) (row : Nat) (acc : α) (c : κ) :
    ∀ call ∈ (consume take row acc c).calls,
      (∃ answer, call = .advance answer) ∨ ∃ answer, call = .scan answer := by
  induction row, acc, c using consume.induct (κ := κ) take with
  | case1 row acc c e c₁ h =>
    rw [consume_of_advance_error h]
    simp
  | case2 row acc c c₁ h =>
    rw [consume_of_exhausted h]
    simp
  | case3 row acc c c₁ h e c₂ hs =>
    rw [consume_of_scan_error h hs]
    simp
  | case4 row acc c c₁ h values c₂ hs e ht =>
    rw [consume_of_refused h hs ht]
    simp
  | case5 row acc c c₁ h values c₂ hs acc' ht ih =>
    rw [consume_of_taken h hs ht]
    simpa [Reading.after] using ih

/-- A reading has this outcome and this result, and its cursor is closed with that answer. -/
structure Reading.Ends (r : Reading α κ) (outcome : Except Error Unit) (result : α)
    (closed : Except Error Unit) : Prop where
  outcome : r.outcome = outcome
  result : r.result = result
  closed : (close r.cursor).1 = closed

/-- What was called before a reading has no part in how it ends. -/
theorem Reading.Ends.after {r : Reading α κ} {outcome closed : Except Error Unit} {result : α}
    (h : r.Ends outcome result closed) (calls : List Call) :
    (r.after calls).Ends outcome result closed :=
  ⟨h.outcome, h.result, h.closed⟩

end Cursor

theorem Cursor.Reading.after_after {α κ : Type} (r : Reading α κ) (calls calls' : List Call) :
    (r.after calls').after calls = r.after (calls ++ calls') := by
  simp only [after, List.append_assoc]

namespace Engine

variable {F : Family} {σ κ α : Type} [Cursor κ] {e e' : Engine F σ κ} {hint sql : String}
  {params : List Value}

theorem fold_of_error {err : Error} (h : e.query hint sql params = (.error err, e'))
    (take : Nat → List Value → α → Except Error α) (acc : α) :
    e.fold hint sql params take acc = ((.error err, e'), acc) := by
  simp only [fold, h]

theorem fold_of_ok {c : κ} (h : e.query hint sql params = (.ok c, e'))
    (take : Nat → List Value → α → Except Error α) (acc : α) :
    e.fold hint sql params take acc =
      let reading := Cursor.consume take 0 acc c
      ((e'.record (reading.calls.map .called)).finish hint reading.cursor reading.outcome,
        reading.result) := by
  simp only [fold, h]

end Engine

end RecordMapper
