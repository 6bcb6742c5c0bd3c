import Mathlib.Data.List.Forall2

/-!
# Computations that can fail

A computation in two steps succeeds if both do. A list whose elements are worked off one after
another gives a result for each of them, in their order, or the failure of the first that fails.
-/

namespace RecordMapper

variable {ε α β : Type}

theorem ok_of_bind {x : Except ε α} {f : α → Except ε β} {b : β}
    (h : x >>= f = .ok b) : ∃ a, x = .ok a ∧ f a = .ok b := by
  cases x with
  | error e => cases h
  | ok a => exact ⟨a, rfl, h⟩

theorem bind_eq_ok_iff {x : Except ε α} {g : α → Except ε β} {b : β} :
    x >>= g = .ok b ↔ ∃ a, x = .ok a ∧ g a = .ok b := by
  refine ⟨ok_of_bind, ?_⟩
  rintro ⟨a, rfl, h⟩
  exact h

variable {g : α → Except ε β} {xs : List α}

theorem mapM_eq_ok_iff {ys : List β} :
    xs.mapM g = .ok ys ↔ List.Forall₂ (fun x y => g x = .ok y) xs ys := by
  induction xs generalizing ys with
  | nil =>
    rw [List.forall₂_nil_left_iff]
    exact ⟨fun h => (Except.ok.inj h).symm, fun h => h ▸ rfl⟩
  | cons x xs ih =>
    rw [List.mapM_cons, List.forall₂_cons_left_iff]
    constructor
    · intro h
      obtain ⟨y, hy, h⟩ := ok_of_bind h
      obtain ⟨rest, hrest, h⟩ := ok_of_bind h
      exact ⟨y, rest, hy, ih.1 hrest, (Except.ok.inj h).symm⟩
    · rintro ⟨y, rest, hy, hrest, rfl⟩
      rw [hy, ih.2 hrest]
      rfl

/-- A traversal fails as its first element that fails. -/
theorem mapM_eq_error_iff {e : ε} :
    xs.mapM g = .error e ↔ ∃ ahead x behind, xs = ahead ++ x :: behind ∧
      (∀ a ∈ ahead, ∃ y, g a = .ok y) ∧ g x = .error e := by
  constructor
  · intro h
    induction xs with
    | nil => cases h
    | cons x xs ih =>
      rw [List.mapM_cons] at h
      cases hx : g x with
      | error e' =>
        rw [hx] at h
        cases h
        exact ⟨[], x, xs, rfl, nofun, hx⟩
      | ok y =>
        cases hxs : xs.mapM g with
        | ok ys =>
          rw [hx, hxs] at h
          cases h
        | error e' =>
          rw [hx, hxs] at h
          cases h
          obtain ⟨ahead, z, behind, rfl, ha, hz⟩ := ih hxs
          exact ⟨x :: ahead, z, behind, rfl, List.forall_mem_cons.2 ⟨⟨y, hx⟩, ha⟩, hz⟩
  · rintro ⟨ahead, x, behind, rfl, ha, hx⟩
    induction ahead with
    | nil =>
      rw [List.nil_append, List.mapM_cons, hx]
      rfl
    | cons a ahead ih =>
      obtain ⟨⟨y, hy⟩, ha⟩ := List.forall_mem_cons.1 ha
      rw [List.cons_append, List.mapM_cons, hy, ih ha]
      rfl

theorem getElem?_of_mapM {ys : List β} (h : xs.mapM g = .ok ys) {i : Nat} {x : α}
    (hx : xs[i]? = some x) : ∃ y, ys[i]? = some y ∧ g x = .ok y := by
  have hall := mapM_eq_ok_iff.1 h
  obtain ⟨hi, rfl⟩ := List.getElem?_eq_some_iff.1 hx
  have hi' : i < ys.length := hall.length_eq ▸ hi
  exact ⟨ys[i], List.getElem?_eq_getElem hi', hall.get hi hi'⟩

theorem exists_mapM_iff : (∃ ys, xs.mapM g = .ok ys) ↔ ∀ x ∈ xs, ∃ y, g x = .ok y := by
  constructor
  · rintro ⟨ys, h⟩ x hx
    obtain ⟨i, hi⟩ := List.mem_iff_getElem?.1 hx
    obtain ⟨y, -, hy⟩ := getElem?_of_mapM h hi
    exact ⟨y, hy⟩
  · intro h
    cases hm : xs.mapM g with
    | ok ys => exact ⟨ys, rfl⟩
    | error e =>
      obtain ⟨ahead, x, behind, rfl, -, hx⟩ := mapM_eq_error_iff.1 hm
      obtain ⟨y, hy⟩ := h x (by simp)
      cases hx.symm.trans hy

/-- Elements that all have partners in a relation have a list of partners. -/
theorem exists_forall₂ {r : α → β → Prop} (h : ∀ x ∈ xs, ∃ y, r x y) :
    ∃ ys, List.Forall₂ r xs ys := by
  induction xs with
  | nil => exact ⟨[], .nil⟩
  | cons x xs ih =>
    obtain ⟨⟨y, hy⟩, hxs⟩ := List.forall_mem_cons.1 h
    obtain ⟨ys, hys⟩ := ih hxs
    exact ⟨y :: ys, .cons hy hys⟩

end RecordMapper
