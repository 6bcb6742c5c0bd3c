import RecordMapper.Proofs.Executor.Reading

/-!
# Executors that answer alike

Two cursors are alike when no sequence of calls tells them apart by its answers; their types and
their inner states may differ. Reading alike cursors gives the same outcome, the same result and the
same calls, so an operation learns of its executor nothing but the answers.
-/

namespace RecordMapper

variable {κ₁ κ₂ : Type} [Cursor κ₁] [Cursor κ₂]

namespace Cursor

/-- Related cursors give the same answers and stay related. Nothing is asked of closed ones. -/
structure Bisimulation (R : κ₁ → κ₂ → Prop) : Prop where
  advance : ∀ {c₁ c₂}, R c₁ c₂ →
    (advance c₁).1 = (advance c₂).1 ∧ R (advance c₁).2 (advance c₂).2
  scan : ∀ {c₁ c₂}, R c₁ c₂ → (scan c₁).1 = (scan c₂).1 ∧ R (scan c₁).2 (scan c₂).2
  close : ∀ {c₁ c₂}, R c₁ c₂ → (close c₁).1 = (close c₂).1

/-- Two cursors that their answers do not tell apart. -/
def Alike (c₁ : κ₁) (c₂ : κ₂) : Prop :=
  ∃ R : κ₁ → κ₂ → Prop, Bisimulation R ∧ R c₁ c₂

theorem Alike.advance {c₁ : κ₁} {c₂ : κ₂} (h : Alike c₁ c₂) :
    (advance c₁).1 = (advance c₂).1 ∧ Alike (advance c₁).2 (advance c₂).2 := by
  obtain ⟨R, hR, h⟩ := h
  exact ⟨(hR.advance h).1, R, hR, (hR.advance h).2⟩

theorem Alike.scan {c₁ : κ₁} {c₂ : κ₂} (h : Alike c₁ c₂) :
    (scan c₁).1 = (scan c₂).1 ∧ Alike (scan c₁).2 (scan c₂).2 := by
  obtain ⟨R, hR, h⟩ := h
  exact ⟨(hR.scan h).1, R, hR, (hR.scan h).2⟩

theorem Alike.close {c₁ : κ₁} {c₂ : κ₂} (h : Alike c₁ c₂) : (close c₁).1 = (close c₂).1 := by
  obtain ⟨R, hR, h⟩ := h
  exact hR.close h

theorem Alike.refl (c : κ₁) : Alike c c := by
  refine ⟨Eq, ⟨?_, ?_, ?_⟩, rfl⟩ <;> (rintro c _ rfl; simp)

/-- Reading alike cursors gives alike readings. -/
theorem Alike.consume {α : Type} (take : Nat → List Value → α → Except Error α) (row : Nat)
    (acc : α) {c₁ : κ₁} {c₂ : κ₂} (h : Alike c₁ c₂) :
    let r₁ := consume take row acc c₁
    let r₂ := consume take row acc c₂
    r₁.outcome = r₂.outcome ∧ r₁.result = r₂.result ∧ r₁.calls = r₂.calls ∧
      Alike r₁.cursor r₂.cursor := by
  induction row, acc, c₁ using consume.induct (κ := κ₁) take generalizing c₂ with
  | case1 row acc c₁ e c₁' ha =>
    obtain ⟨hr, hn⟩ := h.advance
    rw [ha] at hr hn
    rw [consume_of_advance_error ha, consume_of_advance_error (Prod.ext hr.symm rfl)]
    exact ⟨rfl, rfl, rfl, hn⟩
  | case2 row acc c₁ c₁' ha =>
    obtain ⟨hr, hn⟩ := h.advance
    rw [ha] at hr hn
    rw [consume_of_exhausted ha, consume_of_exhausted (Prod.ext hr.symm rfl)]
    exact ⟨rfl, rfl, rfl, hn⟩
  | case3 row acc c₁ c₁' ha e c₁'' hs =>
    obtain ⟨hr, hn⟩ := h.advance
    rw [ha] at hr hn
    obtain ⟨hr', hn'⟩ := hn.scan
    rw [hs] at hr' hn'
    rw [consume_of_scan_error ha hs,
      consume_of_scan_error (Prod.ext hr.symm rfl) (Prod.ext hr'.symm rfl)]
    exact ⟨rfl, rfl, rfl, hn'⟩
  | case4 row acc c₁ c₁' ha values c₁'' hs e ht =>
    obtain ⟨hr, hn⟩ := h.advance
    rw [ha] at hr hn
    obtain ⟨hr', hn'⟩ := hn.scan
    rw [hs] at hr' hn'
    rw [consume_of_refused ha hs ht,
      consume_of_refused (Prod.ext hr.symm rfl) (Prod.ext hr'.symm rfl) ht]
    exact ⟨rfl, rfl, rfl, hn'⟩
  | case5 row acc c₁ c₁' ha values c₁'' hs acc' ht ih =>
    obtain ⟨hr, hn⟩ := h.advance
    rw [ha] at hr hn
    obtain ⟨hr', hn'⟩ := hn.scan
    rw [hs] at hr' hn'
    obtain ⟨ho, hx, hcalls, hc⟩ := ih hn'
    rw [consume_of_taken ha hs ht,
      consume_of_taken (Prod.ext hr.symm rfl) (Prod.ext hr'.symm rfl) ht]
    refine ⟨ho, hx, ?_, hc⟩
    simp only [Reading.after, hcalls]

/-- Readings of alike cursors end alike. -/
theorem Reading.Ends.of_alike {α : Type} {take : Nat → List Value → α → Except Error α} {row : Nat}
    {acc result : α} {outcome closed : Except Error Unit} {c₁ : κ₁} {c₂ : κ₂}
    (h : (consume take row acc c₂).Ends outcome result closed) (hc : Alike c₁ c₂) :
    (consume take row acc c₁).Ends outcome result closed := by
  obtain ⟨ho, hx, -, hcursor⟩ := Alike.consume take row acc hc
  exact ⟨ho.trans h.outcome, hx.trans h.result, hcursor.close.trans h.closed⟩

/-- Answers to a query that cannot be told apart: the same error, or alike cursors. -/
def AlikeAnswers : Except Error κ₁ → Except Error κ₂ → Prop
  | .ok c₁, .ok c₂ => Alike c₁ c₂
  | .error e₁, .error e₂ => e₁ = e₂
  | _, _ => False

theorem AlikeAnswers.refl (answer : Except Error κ₁) : AlikeAnswers answer answer := by
  cases answer with
  | error e => exact Eq.refl e
  | ok c => exact Alike.refl c

end Cursor

namespace Engine

variable {F : Family} {σ₁ σ₂ : Type} {e₁ : Engine F σ₁ κ₁} {e₂ : Engine F σ₂ κ₂}

theorem finish_alike {c₁ : κ₁} {c₂ : κ₂} (h : Cursor.Alike c₁ c₂) (hint₁ hint₂ : String)
    (outcome : Except Error Unit) :
    (e₁.finish hint₁ c₁ outcome).1 = (e₂.finish hint₂ c₂ outcome).1 := by
  unfold finish
  rw [h.close]
  cases outcome <;> cases (Cursor.close c₂).1 <;> rfl

/-- A query that is answered alike is folded to the same outcome and the same result, whatever the
label of the session. -/
theorem fold_alike {α : Type} {sql : String} {params : List Value}
    (h : Cursor.AlikeAnswers (e₁.executor.query sql params e₁.state).1
      (e₂.executor.query sql params e₂.state).1)
    (hint₁ hint₂ : String) (take : Nat → List Value → α → Except Error α) (acc : α) :
    (e₁.fold hint₁ sql params take acc).1.1 = (e₂.fold hint₂ sql params take acc).1.1 ∧
      (e₁.fold hint₁ sql params take acc).2 = (e₂.fold hint₂ sql params take acc).2 := by
  change Cursor.AlikeAnswers (e₁.query hint₁ sql params).1 (e₂.query hint₂ sql params).1 at h
  rcases hq₁ : e₁.query hint₁ sql params with ⟨err₁ | c₁, e₁'⟩ <;>
    rcases hq₂ : e₂.query hint₂ sql params with ⟨err₂ | c₂, e₂'⟩ <;> rw [hq₁, hq₂] at h
  · rw [fold_of_error hq₁, fold_of_error hq₂]
    exact ⟨congrArg _ h, rfl⟩
  · exact h.elim
  · exact h.elim
  · rw [fold_of_ok hq₁, fold_of_ok hq₂]
    obtain ⟨ho, hx, -, hc⟩ := Cursor.Alike.consume take 0 acc h
    refine ⟨?_, hx⟩
    simp only [ho]
    exact finish_alike hc _ _ _

end Engine

end RecordMapper
