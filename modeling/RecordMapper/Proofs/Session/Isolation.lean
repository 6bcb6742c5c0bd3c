import Mathlib.Data.List.Induction
import RecordMapper.Executor.Scripted
import RecordMapper.Proofs.Schema.Declared
import RecordMapper.Proofs.Session.Requests

/-!
# Isolation of statements

No clause outlives the operation that consumes it. After every operation other than a setter call
the session is a fresh one; in between it holds clauses of its own dialect that were staged since
then. What an operation does therefore depends on the setter calls before it and on nothing that
came earlier: two runs with different pasts go on with the same requests, and with the same answers
wherever their executors answer these requests alike.
-/

namespace RecordMapper

/-- The session collects for the dialect `d`, and every fragment that it holds is the rendering of
one of the clauses `cs`, of a kind that setter calls stage. -/
structure Session.HoldsOnly (d : Dialect) (hint? : Option String) (cs : List Clause)
    (s : Session) : Prop where
  dialect : s.dialect = d
  hint : s.hint? = hint?
  clauses : s.clauses.dialect = d
  held : ∀ k f, s.clauses.get? k = some f →
    k ∈ Operation.stagedKinds ∧ ∃ c ∈ cs, c.kind = k ∧ c.render d = .ok f

namespace Operation

variable {F : Family}

/-- A run that is empty or ends with something else than a setter call. -/
def EndsFresh (ops : List (Operation F)) : Prop :=
  ∀ o ∈ ops.getLast?, o.clause? = none

theorem collected_of_endsFresh {ops : List (Operation F)} (h : EndsFresh ops) :
    collected ops = [] := by
  rcases List.eq_nil_or_concat ops with rfl | ⟨before, o, rfl⟩
  · rfl
  · have ho : o.clause? = none := h o (by simp)
    rw [List.concat_eq_append, collected_concat, collect, ho]

theorem kind_of_mem_collected {ops : List (Operation F)} {c : Clause} (h : c ∈ collected ops) :
    c.kind ∈ stagedKinds := by
  induction ops using List.reverseRecOn with
  | nil => cases h
  | append_singleton ops o ih =>
    rw [collected_concat] at h
    unfold collect at h
    split at h
    · next b hb =>
      rcases List.mem_append.1 h with h | h
      · exact ih h
      · rw [List.mem_singleton.1 h]
        exact kind_of_clause? hb
    · cases h

/-- The session after a run holds only what the setter calls at its end have staged. -/
theorem holdsOnly_runAll {σ κ : Type} [Cursor κ] (ops : List (Operation F)) (d : Dialect)
    (hint? : Option String) (e : Engine F σ κ) :
    (runAll ops (.fresh d hint?) e).2.1.HoldsOnly d hint? (collected ops) := by
  rw [runAll_session]
  have hframe := Session.stageAll_frame (collected ops) (.fresh d hint?)
  refine ⟨hframe.1, hframe.2.1, hframe.2.2, fun k f hf => ?_⟩
  obtain ⟨c, hc, hk, hr⟩ := Session.mem_of_stageAll_fresh hf
  exact ⟨hk ▸ kind_of_mem_collected hc, c, hc, hk, hr⟩

theorem runAll_endsFresh {σ κ : Type} [Cursor κ] {ops : List (Operation F)} (h : EndsFresh ops)
    (d : Dialect) (hint? : Option String) (e : Engine F σ κ) :
    (runAll ops (.fresh d hint?) e).2.1 = .fresh d hint? := by
  rw [runAll_session, collected_of_endsFresh h]
  rfl

/-- What an operation comes down to does not depend on the label of the session. -/
theorem action_hint (o : Operation F) (s : Session) (hint? : Option String) :
    o.action { s with hint? := hint? } = o.action s := by
  cases o with
  | first k =>
    have hl : ({ s with hint? := hint? } : Session).limit Session.single =
        { s.limit Session.single with hint? := hint? } := s.stage_relabel _ hint?
    simp only [action, statement?, hl]
    rfl
  | _ => rfl

/-- In sessions of one dialect that hold nothing, the same setter calls make an operation come down
to the same action. -/
theorem action_stageAll_fresh (o : Operation F) (d : Dialect) (cs : List Clause)
    (hint₁? hint₂? : Option String) :
    o.action ((Session.fresh d hint₁?).stageAll cs) =
      o.action ((Session.fresh d hint₂?).stageAll cs) := by
  have h : (Session.fresh d hint₁?).stageAll cs =
      { (Session.fresh d hint₂?).stageAll cs with hint? := hint₁? } :=
    Session.stageAll_relabel cs (.fresh d hint₂?) hint₁?
  rw [h, action_hint]

/-- After setter calls, an operation makes the same requests whatever the engine. -/
theorem answers_alike {σ₁ σ₂ κ₁ κ₂ : Type} [Cursor κ₁] [Cursor κ₂] {e₁ : Engine F σ₁ κ₁}
    {e₂ : Engine F σ₂ κ₂} (he₁ : e₁.registry.Sound) (he₂ : e₂.registry.Sound) {s₁ s₂ : Session}
    {setters : List (Operation F)} (hs : ∀ x ∈ setters, x.clause? ≠ none) (o : Operation F)
    (ha : o.action (s₁.stageAll (setters.filterMap clause?)) =
      o.action (s₂.stageAll (setters.filterMap clause?))) :
    requests (setters ++ [o]) s₁ e₁ = requests (setters ++ [o]) s₂ e₂ ∧
      ((∀ r ∈ requests (setters ++ [o]) s₁ e₁, r.AnsweredAlike e₁ e₂) →
        (runAll (setters ++ [o]) s₁ e₁).1 = (runAll (setters ++ [o]) s₂ e₂).1) := by
  rw [requests_setters_concat he₁ hs, requests_setters_concat he₂ hs, ha]
  refine ⟨rfl, fun h => ?_⟩
  have hrun := run_alike he₁ he₂ ha (ha ▸ h)
  simp only [runAll_append, runAll_setters hs, runAll, hrun]

/-- Clauses never leak between statements. An operation other than a setter call leaves a fresh
session behind, whatever came of it; setter calls are all that a session holds clauses of; and a
fresh session makes the same requests after the same setter calls as any other one of its dialect,
and gives the same answers where the executors answer these requests alike. -/
theorem clauses_do_not_leak (d : Dialect) :
    (∀ {σ κ : Type} [Cursor κ] (hint? : Option String) (e : Engine F σ κ)
      (ops : List (Operation F)) (o : Operation F), o.clause? = none →
      (runAll (ops ++ [o]) (.fresh d hint?) e).2.1 = .fresh d hint?) ∧
    (∀ {σ κ : Type} [Cursor κ] (hint? : Option String) (e : Engine F σ κ)
      (ops : List (Operation F)),
      (runAll ops (.fresh d hint?) e).2.1.HoldsOnly d hint? (collected ops)) ∧
    (∀ {σ₁ σ₂ κ₁ κ₂ : Type} [Cursor κ₁] [Cursor κ₂] (hint₁? hint₂? : Option String)
      (e₁ : Engine F σ₁ κ₁) (e₂ : Engine F σ₂ κ₂), e₁.registry.Sound → e₂.registry.Sound →
      ∀ past₁ past₂ : List (Operation F), EndsFresh past₁ → EndsFresh past₂ →
      ∀ (setters : List (Operation F)) (o : Operation F), (∀ x ∈ setters, x.clause? ≠ none) →
      let (_, s₁, e₁) := runAll past₁ (.fresh d hint₁?) e₁
      let (_, s₂, e₂) := runAll past₂ (.fresh d hint₂?) e₂
      requests (setters ++ [o]) s₁ e₁ = requests (setters ++ [o]) s₂ e₂ ∧
        ((∀ r ∈ requests (setters ++ [o]) s₁ e₁, r.AnsweredAlike e₁ e₂) →
          (runAll (setters ++ [o]) s₁ e₁).1 = (runAll (setters ++ [o]) s₂ e₂).1)) := by
  refine ⟨?_, ?_, ?_⟩
  · intro σ κ _ hint? e ops o ho
    exact runAll_endsFresh (by simpa [EndsFresh] using ho) d hint? e
  · intro σ κ _ hint? e ops
    exact holdsOnly_runAll ops d hint? e
  · intro σ₁ σ₂ κ₁ κ₂ _ _ hint₁? hint₂? e₁ e₂ he₁ he₂ past₁ past₂ hp₁ hp₂ setters o hs
    have hs₁ := runAll_endsFresh hp₁ d hint₁? e₁
    have hs₂ := runAll_endsFresh hp₂ d hint₂? e₂
    have hi₁ := runAll_issues he₁ past₁ (.fresh d hint₁?)
    have hi₂ := runAll_issues he₂ past₂ (.fresh d hint₂?)
    dsimp only
    rw [hs₁, hs₂]
    exact answers_alike hi₁.sound hi₂.sound hs o (action_stageAll_fresh o d _ hint₁? hint₂?)

/-- A delete of which the past of one session has seen another one, and that of the other session a
find with an ordering that is refused. -/
theorem clauses_do_not_leak_users :
    let e₁ : Engine Declaration.userFamily Script ScriptedCursor :=
      { executor := Script.executor, dialect := .sqlite, state := ⟨[.ok 3, .ok 1], []⟩ }
    let e₂ : Engine Declaration.userFamily Script ScriptedCursor :=
      { executor := Script.executor, dialect := .mysql, state := ⟨[.ok 1], []⟩ }
    let (_, s₁, e₁) :=
      runAll [.filter "id < ?" [.ofInt 9], .limit (.zero _), .delete ()] (.fresh .sqlite none) e₁
    let (_, s₂, e₂) := runAll [.order " ", .find () []] (.fresh .sqlite (some "app")) e₂
    let more := [.filter "active" [], .delete ()]
    requests more s₁ e₁ = requests more s₂ e₂ ∧
      (runAll more s₁ e₁).1 = (runAll more s₂ e₂).1 := by
  have h := (clauses_do_not_leak (F := Declaration.userFamily) .sqlite).2.2 none (some "app")
    { executor := Script.executor, dialect := .sqlite, state := ⟨[.ok 3, .ok 1], []⟩ }
    { executor := Script.executor, dialect := .mysql, state := ⟨[.ok 1], []⟩ }
    Registry.sound_empty Registry.sound_empty
    [.filter "id < ?" [.ofInt 9], .limit (.zero _), .delete ()] [.order " ", .find () []]
    (by simp [EndsFresh, clause?]) (by simp [EndsFresh, clause?]) [.filter "active" []]
    (.delete ()) (by simp [clause?])
  refine ⟨h.1, h.2 fun r hr => ?_⟩
  have hd : r = .exec ⟨"DELETE FROM \"users\" WHERE active", []⟩ := by
    rw [← List.mem_singleton]
    exact hr
  rw [hd]
  rfl

end Operation

end RecordMapper
