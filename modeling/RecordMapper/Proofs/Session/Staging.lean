import RecordMapper.Proofs.Clause.Set
import RecordMapper.Session.Operation

/-!
# Staged clauses

A run leaves in its session what the setter calls since the last other operation have staged, and
nothing else: the state of the session is `stageAll (collected ops)` on a fresh session. If all
those clauses render, the session holds the last fragment of every kind; if one of them does not,
the session holds what was staged before the first such clause, with its error pending.
-/

namespace RecordMapper

namespace Clause

/-- The fragment of the last clause of a kind among some clauses that render. -/
def lastFragment? (d : Dialect) (k : Kind) : List Clause → Option Fragment
  | [] => none
  | c :: cs => (lastFragment? d k cs).or (if c.kind = k then (c.render d).toOption else none)

/-- Every one of the clauses renders. -/
def AllRender (d : Dialect) (cs : List Clause) : Prop :=
  ∀ c ∈ cs, ∃ f, c.render d = .ok f

theorem mem_of_lastFragment? {d : Dialect} {k : Kind} {cs : List Clause} {f : Fragment}
    (h : lastFragment? d k cs = some f) : ∃ c ∈ cs, c.kind = k ∧ c.render d = .ok f := by
  induction cs with
  | nil => cases h
  | cons c cs ih =>
    rcases Option.or_eq_some_iff.1 h with h | ⟨-, h⟩
    · obtain ⟨b, hb, hk⟩ := ih h
      exact ⟨b, List.mem_cons_of_mem _ hb, hk⟩
    · split at h
      · next hk =>
        refine ⟨c, List.mem_cons_self, hk, ?_⟩
        cases hr : c.render d with
        | error err => simp [hr, Except.toOption] at h
        | ok g => simp_all [Except.toOption]
      · cases h

theorem lastFragment?_eq_none {d : Dialect} {k : Kind} {cs : List Clause}
    (h : ∀ c ∈ cs, c.kind ≠ k) : lastFragment? d k cs = none := by
  cases hl : lastFragment? d k cs with
  | none => rfl
  | some f =>
    obtain ⟨c, hc, hk, -⟩ := mem_of_lastFragment? hl
    exact absurd hk (h c hc)

/-- A clause that no later one of its kind replaces is the last of its kind. -/
theorem lastFragment?_append_cons {d : Dialect} {c : Clause} {f : Fragment}
    (hf : c.render d = .ok f) (ahead : List Clause) {behind : List Clause}
    (hb : ∀ b ∈ behind, b.kind ≠ c.kind) :
    lastFragment? d c.kind (ahead ++ c :: behind) = some f := by
  induction ahead with
  | nil => simp [lastFragment?, lastFragment?_eq_none hb, hf, Except.toOption]
  | cons a ahead ih => simp [lastFragment?, ih]

theorem lastFragment?_concat_of_ne {d : Dialect} {k : Kind} {c : Clause} (h : c.kind ≠ k)
    (cs : List Clause) : lastFragment? d k (cs ++ [c]) = lastFragment? d k cs := by
  induction cs with
  | nil => simp [lastFragment?, h]
  | cons b cs ih => simp only [List.cons_append, lastFragment?, ih]

theorem lastFragment?_of_mem {d : Dialect} {cs : List Clause} (hcs : AllRender d cs) {c : Clause}
    (hc : c ∈ cs) : ∃ f, lastFragment? d c.kind cs = some f := by
  induction cs with
  | nil => cases hc
  | cons b cs ih =>
    obtain ⟨⟨f, hf⟩, hcs⟩ := List.forall_mem_cons.1 hcs
    rcases List.mem_cons.1 hc with rfl | hc
    · cases hl : lastFragment? d c.kind cs with
      | none => exact ⟨f, by simp [lastFragment?, hl, hf, Except.toOption]⟩
      | some g => exact ⟨g, by simp [lastFragment?, hl]⟩
    · obtain ⟨g, hg⟩ := ih hcs hc
      exact ⟨g, by simp [lastFragment?, hg]⟩

/-- Either all clauses render, or there is a first one that does not. -/
theorem allRender_or_first_failure (d : Dialect) (cs : List Clause) :
    AllRender d cs ∨ ∃ ahead c behind err, cs = ahead ++ c :: behind ∧ AllRender d ahead ∧
      c.render d = .error err := by
  induction cs with
  | nil => exact .inl nofun
  | cons c cs ih =>
    cases hc : c.render d with
    | error err => exact .inr ⟨[], c, cs, err, rfl, nofun, hc⟩
    | ok f =>
      rcases ih with ih | ⟨ahead, b, behind, err, rfl, ha, hb⟩
      · exact .inl (List.forall_mem_cons.2 ⟨⟨f, hc⟩, ih⟩)
      · exact .inr ⟨c :: ahead, b, behind, err, rfl, List.forall_mem_cons.2 ⟨⟨f, hc⟩, ha⟩, hb⟩

end Clause

namespace Session

variable {d : Dialect} {hint? : Option String}

@[simp]
theorem clauses_fresh : (fresh d hint?).clauses = .empty d := rfl

theorem stage_of_pending {s : Session} {e : Error} (h : s.pending = some e) (c : Clause) :
    s.stage c = s := by
  simp [stage, h]

theorem stage_of_ok {s : Session} (h : s.pending = none) {c : Clause} {f : Fragment}
    (hc : c.render s.clauses.dialect = .ok f) :
    s.stage c = { s with clauses := s.clauses.put c.kind (some f) } := by
  simp [stage, h, ClauseSet.set_of_ok hc]

theorem stage_of_error {s : Session} (h : s.pending = none) {c : Clause} {e : Error}
    (hc : c.render s.clauses.dialect = .error e) :
    s.stage c = { s with pending := some e } := by
  simp [stage, h, ClauseSet.set_of_error hc]

/-- Staging a clause touches the collected clauses and the pending error only. -/
theorem stage_frame (s : Session) (c : Clause) :
    (s.stage c).dialect = s.dialect ∧ (s.stage c).hint? = s.hint? ∧
      (s.stage c).clauses.dialect = s.clauses.dialect := by
  cases hp : s.pending with
  | some e => simp [stage_of_pending hp]
  | none =>
    cases hc : c.render s.clauses.dialect with
    | error e => simp [stage_of_error hp hc]
    | ok f => simp [stage_of_ok hp hc]

/-- The label of a session has no part in what it collects. -/
theorem stage_relabel (s : Session) (c : Clause) (hint? : Option String) :
    stage c { s with hint? := hint? } = { s.stage c with hint? := hint? } := by
  obtain ⟨d, clauses, pending, own?⟩ := s
  unfold stage
  cases pending with
  | some e => rfl
  | none =>
    dsimp only
    rcases clauses.set c with ⟨_ | _, _⟩ <;> rfl

@[simp]
theorem label_stage (s : Session) (c : Clause) : (s.stage c).label = s.label := by
  simp [label, (stage_frame s c).2.1]

@[simp]
theorem reset_stage (s : Session) (c : Clause) : (s.stage c).reset = s.reset := by
  simp [reset, (stage_frame s c).1, (stage_frame s c).2.1]

@[simp]
theorem label_limit (s : Session) (n : Bounded .u64) : (s.limit n).label = s.label :=
  label_stage s _

@[simp]
theorem reset_limit (s : Session) (n : Bounded .u64) : (s.limit n).reset = s.reset :=
  reset_stage s _

/-- The session after some clauses were staged in order. -/
def stageAll (cs : List Clause) (s : Session) : Session :=
  cs.foldl (fun s c => s.stage c) s

@[simp]
theorem stageAll_cons (c : Clause) (cs : List Clause) (s : Session) :
    s.stageAll (c :: cs) = (s.stage c).stageAll cs := rfl

theorem stageAll_append (cs bs : List Clause) (s : Session) :
    s.stageAll (cs ++ bs) = (s.stageAll cs).stageAll bs :=
  List.foldl_append

@[simp]
theorem reset_stageAll (cs : List Clause) (s : Session) : (s.stageAll cs).reset = s.reset := by
  induction cs generalizing s with
  | nil => rfl
  | cons c cs ih => rw [stageAll_cons, ih, reset_stage]

theorem stageAll_frame (cs : List Clause) (s : Session) :
    (s.stageAll cs).dialect = s.dialect ∧ (s.stageAll cs).hint? = s.hint? ∧
      (s.stageAll cs).clauses.dialect = s.clauses.dialect := by
  induction cs generalizing s with
  | nil => exact ⟨rfl, rfl, rfl⟩
  | cons c cs ih =>
    have hs := stage_frame s c
    have hi := ih (s.stage c)
    exact ⟨hi.1.trans hs.1, hi.2.1.trans hs.2.1, hi.2.2.trans hs.2.2⟩

theorem stageAll_relabel (cs : List Clause) (s : Session) (hint? : Option String) :
    stageAll cs { s with hint? := hint? } = { s.stageAll cs with hint? := hint? } := by
  induction cs generalizing s with
  | nil => rfl
  | cons c cs ih => rw [stageAll_cons, stageAll_cons, stage_relabel, ih]

theorem stageAll_of_pending {s : Session} {e : Error} (h : s.pending = some e)
    (cs : List Clause) : s.stageAll cs = s := by
  induction cs with
  | nil => rfl
  | cons c cs ih => rw [stageAll_cons, stage_of_pending h, ih]

/-- Clauses that render replace what the session holds of their kinds. -/
theorem stageAll_of_ok {s : Session} (hp : s.pending = none) {cs : List Clause}
    (hcs : Clause.AllRender s.clauses.dialect cs) :
    s.stageAll cs = { s with
      clauses := ⟨s.clauses.dialect, fun k =>
        (Clause.lastFragment? s.clauses.dialect k cs).or (s.clauses.get? k)⟩ } := by
  induction cs generalizing s with
  | nil => rfl
  | cons c cs ih =>
    obtain ⟨⟨f, hf⟩, hcs⟩ := List.forall_mem_cons.1 hcs
    rw [stageAll_cons, stage_of_ok hp hf,
      ih (s := { s with clauses := s.clauses.put c.kind (some f) }) hp hcs]
    congr 2
    funext k
    by_cases hk : k = c.kind
    · subst hk
      simp [Clause.lastFragment?, hf, Except.toOption]
    · simp [Clause.lastFragment?, hk, Ne.symm hk]

/-- A fresh session in which clauses that render were staged. -/
theorem stageAll_fresh_of_ok {cs : List Clause} (hcs : Clause.AllRender d cs) :
    (fresh d hint?).stageAll cs =
      { fresh d hint? with clauses := ⟨d, fun k => Clause.lastFragment? d k cs⟩ } := by
  rw [stageAll_of_ok rfl hcs]
  simp

/-- A clause that does not render ends the collecting and leaves its error pending. -/
theorem stageAll_fresh_of_error {ahead : List Clause} (ha : Clause.AllRender d ahead) {c : Clause}
    {e : Error} (hc : c.render d = .error e) (behind : List Clause) :
    (fresh d hint?).stageAll (ahead ++ c :: behind) =
      { (fresh d hint?).stageAll ahead with pending := some e } := by
  rw [stageAll_append, stageAll_cons, stageAll_fresh_of_ok ha, stage_of_error rfl hc,
    stageAll_of_pending rfl]

/-- What a session holds was staged, and is rendered in its dialect. -/
theorem mem_of_stageAll_fresh {cs : List Clause} {k : Clause.Kind} {f : Fragment}
    (h : ((fresh d hint?).stageAll cs).clauses.get? k = some f) :
    ∃ c ∈ cs, c.kind = k ∧ c.render d = .ok f := by
  rcases Clause.allRender_or_first_failure d cs with hcs | ⟨ahead, c, behind, e, rfl, ha, hc⟩
  · rw [stageAll_fresh_of_ok hcs] at h
    exact Clause.mem_of_lastFragment? h
  · rw [stageAll_fresh_of_error ha hc, stageAll_fresh_of_ok ha] at h
    obtain ⟨b, hb, hk⟩ := Clause.mem_of_lastFragment? h
    exact ⟨b, List.mem_append_left _ hb, hk⟩

theorem least_le_one : IntegerType.u64.least ≤ 1 := by decide

theorem one_le_greatest : 1 ≤ IntegerType.u64.greatest := by decide

/-- The limit under which the first record is found. -/
def single : Bounded .u64 := ⟨1, least_le_one, one_le_greatest⟩

end Session

namespace Operation

variable {F : Family} {σ κ : Type}

/-- The clause that an operation collects, if it does nothing else. -/
def clause? : Operation F → Option Clause
  | filter condition params => some (.filter condition params)
  | order ordering => some (.order ordering)
  | limit n => some (.limit n)
  | _ => none

/-- The kinds of clauses that operations collect. -/
def stagedKinds : List Clause.Kind := [.filter, .order, .limit]

theorem kind_of_clause? {o : Operation F} {c : Clause} (h : o.clause? = some c) :
    c.kind ∈ stagedKinds := by
  cases o <;> cases h <;> simp [stagedKinds, Clause.kind]

/-- The session after an operation, whatever comes of the operation. -/
def after (s : Session) (o : Operation F) : Session :=
  match o.clause? with
  | some c => s.stage c
  | none => s.reset

/-- The clauses collected after an operation, where `cs` were collected before. -/
def collect (cs : List Clause) (o : Operation F) : List Clause :=
  match o.clause? with
  | some c => cs ++ [c]
  | none => []

/-- The clauses of the setter calls since the last operation of another kind. -/
def collected (ops : List (Operation F)) : List Clause :=
  ops.foldl collect []

theorem collected_concat (ops : List (Operation F)) (o : Operation F) :
    collected (ops ++ [o]) = collect (collected ops) o := by
  simp [collected]

theorem after_stageAll (d : Dialect) (hint? : Option String) (cs : List Clause)
    (o : Operation F) :
    o.after ((Session.fresh d hint?).stageAll cs) =
      (Session.fresh d hint?).stageAll (collect cs o) := by
  unfold after collect
  cases o.clause? with
  | none => exact Session.reset_stageAll cs _
  | some c => exact (Session.stageAll_append cs [c] _).symm

/-- An operation leaves its session in a state that its outcome has no part in. -/
theorem run_session [Cursor κ] (o : Operation F) (s : Session) (e : Engine F σ κ) :
    (o.run s e).2.1 = o.after s := by
  cases o with
  | find k dest =>
    simp only [run, Session.find]
    split <;> rfl
  | first k =>
    simp only [run, Session.first, Session.find]
    split <;> exact Session.reset_stage s _
  | _ => rfl

theorem runAll_append [Cursor κ] (ops more : List (Operation F)) (s : Session)
    (e : Engine F σ κ) :
    runAll (ops ++ more) s e =
      let (as, s, e) := runAll ops s e
      let (bs, s, e) := runAll more s e
      (as ++ bs, s, e) := by
  induction ops generalizing s e with
  | nil => rfl
  | cons o ops ih => simp only [List.cons_append, runAll, ih]

theorem runAll_foldl [Cursor κ] (ops : List (Operation F)) (s : Session) (e : Engine F σ κ) :
    (runAll ops s e).2.1 = ops.foldl after s := by
  induction ops generalizing s e with
  | nil => rfl
  | cons o ops ih => rw [runAll, List.foldl_cons, ← run_session o s e, ← ih]

/-- The session after a run holds what the setter calls at its end have staged. -/
theorem runAll_session [Cursor κ] (ops : List (Operation F)) (d : Dialect)
    (hint? : Option String) (e : Engine F σ κ) :
    (runAll ops (.fresh d hint?) e).2.1 = (Session.fresh d hint?).stageAll (collected ops) := by
  suffices h : ∀ cs, ops.foldl after ((Session.fresh d hint?).stageAll cs) =
      (Session.fresh d hint?).stageAll (ops.foldl collect cs) from
    (runAll_foldl ops _ e).trans (h [])
  induction ops with
  | nil => exact fun _ => rfl
  | cons o ops ih =>
    intro cs
    rw [List.foldl_cons, List.foldl_cons, after_stageAll, ih]

end Operation

end RecordMapper
