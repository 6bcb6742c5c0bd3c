import RecordMapper.Executor.Scripted
import RecordMapper.Proofs.Clause.Fragment
import RecordMapper.Proofs.Schema.Declared
import RecordMapper.Proofs.Session.Statement

/-!
# Filters are never lost

A clause that fails to render keeps its error pending until the next operation on records, which
answers with it before it asks for a schema or calls the executor. Where every clause renders, the
condition of the last filter stands in the statement behind the operation's own clause. In neither
case does an operation reach more rows than the filter lets through.
-/

namespace RecordMapper

variable {F : Family}

theorem Clause.fragment_of_filter {d : Dialect} {condition : String} {params : List Value}
    {f : Fragment} (h : (filter condition params).render d = .ok f) :
    f = ⟨"WHERE " ++ Text.trim condition, params⟩ :=
  (fragment_filter.1 (fragment_of_render h)).2.2

theorem Clause.eq_filter_of_kind {c : Clause} (h : c.kind = .filter) :
    ∃ condition params, c = .filter condition params := by
  cases c with
  | filter condition params => exact ⟨condition, params, rfl⟩
  | _ => cases h

namespace Operation

/-- With an error pending, an operation on records answers with it and leaves the engine alone. -/
theorem run_of_pending {σ κ : Type} [Cursor κ] {s : Session} {err : Error}
    (hp : s.pending = some err) {o : Operation F} (ho : o.OnRecords) (e : Engine F σ κ) :
    o.run s e = (o.failure err, s.reset, e) := by
  have ht := Session.taken_of_pending hp
  cases o with
  | filter | order | limit | reset | execRaw | queryRaw => exact ho.elim
  | insert k records => simp only [run, Session.insert, Session.withTaken, ht]; rfl
  | find k dest => simp only [run, Session.find, Session.withTaken, ht]; rfl
  | first k =>
    have hl : s.limit Session.single = s := Session.stage_of_pending hp _
    simp only [run, Session.first_eq, hl, Session.find, Session.withTaken, ht]
    rfl
  | update k assignments => simp only [run, Session.update, Session.withTaken, ht]; rfl
  | delete k => simp only [run, Session.delete, Session.withTaken, ht]; rfl
  | count k => simp only [run, Session.count, Session.withTaken, ht]; rfl

/-- An operation that changes stored records. -/
def Changes : Operation F → Prop
  | update .. | delete .. => True
  | _ => False

theorem lastFragment?_consumed {d : Dialect} (o : Operation F) (cs : List Clause) :
    Clause.lastFragment? d .filter (o.consumed cs) = Clause.lastFragment? d .filter cs := by
  cases o with
  | first k => exact Clause.lastFragment?_concat_of_ne (by simp [Clause.kind]) cs
  | _ => rfl

theorem allRender_of_consumed {d : Dialect} {o : Operation F} {cs : List Clause}
    (h : Clause.AllRender d (o.consumed cs)) : Clause.AllRender d cs := by
  cases o with
  | first k => exact fun c hc => h c (List.mem_append_left _ hc)
  | _ => exact h

/-- Where an operation on stored records has a statement, every collected clause renders, and the
fragment of the last filter stands right behind the operation's own. -/
theorem statement_of_filter {o : Operation F} (ho : o.own? ≠ none) {d : Dialect}
    {hint? : Option String} {cs : List Clause} {st : Statement}
    (h : o.statement? ((Session.fresh d hint?).stageAll cs) = some (.ok st)) :
    Clause.AllRender d cs ∧ ∀ f, Clause.lastFragment? d .filter cs = some f →
      ∃ (c : Clause) (own : Fragment) (rest : List Fragment), c.render d = .ok own ∧
        st = .ofFragments (own :: f :: rest) ∧ (o.Changes → rest = []) := by
  obtain ⟨⟨k, own⟩, hown⟩ := Option.ne_none_iff_exists'.1 ho
  obtain ⟨schema, c, g, -, -, hg, hall, rfl⟩ := statement_of_collected hown h
  refine ⟨allRender_of_consumed hall, fun f hf => ?_⟩
  rw [← lastFragment?_consumed o] at hf
  obtain ⟨kinds, hk, hch⟩ : ∃ kinds, o.placed = .filter :: kinds ∧ (o.Changes → kinds = []) := by
    cases o with
    | find | first => exact ⟨[.order, .limit], rfl, fun hc => hc.elim⟩
    | _ => exact ⟨[], rfl, fun _ => rfl⟩
  refine ⟨c, g, kinds.filterMap fun k => Clause.lastFragment? d k (o.consumed cs), hg, ?_, ?_⟩
  · rw [hk, List.filterMap_cons_some (f := fun k => Clause.lastFragment? d k (o.consumed cs)) hf]
  · intro hc
    rw [hch hc]
    rfl

theorem own?_of_onRecords {o : Operation F} (ho : o.OnRecords)
    (hi : ∀ k records, o ≠ .insert k records) : o.own? ≠ none := by
  cases o with
  | insert k records => exact absurd rfl (hi k records)
  | filter | order | limit | reset | execRaw | queryRaw => exact ho.elim
  | _ => exact nofun

/-- The requests of an operation after a run are for its statement in the session that the run
leaves. -/
theorem mem_requests_runAll {σ κ : Type} [Cursor κ] {e : Engine F σ κ} (he : e.registry.Sound)
    {past : List (Operation F)} {d : Dialect} {hint? : Option String} {o : Operation F}
    {r : Request}
    (h : r ∈ requests [o] (runAll past (.fresh d hint?) e).2.1
      (runAll past (.fresh d hint?) e).2.2) :
    ∃ st, o.statement? ((Session.fresh d hint?).stageAll (collected past)) = some (.ok st) ∧
      r = o.request st := by
  rw [requests_after_run he] at h
  exact mem_requests h

/-- After a run in which a setter call failed, an operation on records answers with the error of the
first such call, and no later call has staged anything. -/
theorem run_of_first_failure {σ κ : Type} [Cursor κ] {d : Dialect} {hint? : Option String}
    {e : Engine F σ κ} {past : List (Operation F)} {o : Operation F} (ho : o.OnRecords)
    {ahead behind : List Clause} {c : Clause} {err : Error}
    (hcs : collected past = ahead ++ c :: behind) (ha : Clause.AllRender d ahead)
    (hc : c.render d = .error err) :
    let (_, s, e) := runAll past (.fresh d hint?) e
    o.run s e = (o.failure err, .fresh d hint?, e) ∧
      s.clauses = ((Session.fresh d hint?).stageAll ahead).clauses := by
  dsimp only
  rw [runAll_session, hcs, Session.stageAll_fresh_of_error ha hc]
  refine ⟨?_, rfl⟩
  rw [run_of_pending rfl ho]
  have hr := Session.reset_stageAll ahead (.fresh d hint?)
  exact congrArg _ (congrArg (·, _) hr)

/-- Where an operation on stored records makes a request after a run, every clause collected in the
run renders, and the fragment of the last filter stands right behind the operation's own. -/
theorem filter_of_mem_requests {σ κ : Type} [Cursor κ] {d : Dialect} {hint? : Option String}
    {e : Engine F σ κ} (he : e.registry.Sound) {past : List (Operation F)} {o : Operation F}
    (ho : o.own? ≠ none) {r : Request}
    (hr : r ∈ requests [o] (runAll past (.fresh d hint?) e).2.1
      (runAll past (.fresh d hint?) e).2.2) :
    Clause.AllRender d (collected past) ∧
      ∀ f, Clause.lastFragment? d .filter (collected past) = some f →
      ∃ (c : Clause) (own : Fragment) (rest : List Fragment), c.render d = .ok own ∧
        r.statement = .ofFragments (own :: f :: rest) ∧ (o.Changes → rest = []) := by
  obtain ⟨st, hst, rfl⟩ := mem_requests_runAll he hr
  rw [statement_request]
  exact statement_of_filter ho hst

/-- A failed filter never widens a statement. The error of the first setter call that failed is the
answer of the next operation on records, which does not touch the engine; and where no call failed
and there was a filter, no statement on stored records is without the last one. -/
theorem failed_filter_never_widens {σ κ : Type} [Cursor κ] (d : Dialect) (hint? : Option String)
    {e : Engine F σ κ} (he : e.registry.Sound) (past : List (Operation F)) {o : Operation F}
    (ho : o.OnRecords) :
    let (_, s, e) := runAll past (.fresh d hint?) e
    (∀ ahead c behind err, collected past = ahead ++ c :: behind → Clause.AllRender d ahead →
      c.render d = .error err →
      o.run s e = (o.failure err, .fresh d hint?, e) ∧
        s.clauses = ((Session.fresh d hint?).stageAll ahead).clauses) ∧
    (∀ ahead condition params behind,
      collected past = ahead ++ .filter condition params :: behind →
      (∀ c ∈ behind, c.kind ≠ .filter) → (∀ k records, o ≠ .insert k records) →
      ∀ r ∈ requests [o] s e,
      ∃ (c : Clause) (own : Fragment) (rest : List Fragment), c.render d = .ok own ∧
        r.statement =
          .ofFragments (own :: ⟨"WHERE " ++ Text.trim condition, params⟩ :: rest)) ∧
    ((∃ c ∈ collected past, c.kind = .filter) → o.Changes → ∀ r ∈ requests [o] s e,
      ∃ (own : Fragment) (condition : String) (params : List Value),
        .filter condition params ∈ collected past ∧
        r.statement = .ofFragments [own, ⟨"WHERE " ++ Text.trim condition, params⟩]) := by
  refine ⟨?_, ?_, ?_⟩
  · intro ahead c behind err hcs ha hc
    exact run_of_first_failure ho hcs ha hc
  · intro ahead condition params behind hcs hb hi r hr
    obtain ⟨hall, hfilter⟩ := filter_of_mem_requests he (own?_of_onRecords ho hi) hr
    obtain ⟨f, hf⟩ := hall (.filter condition params) (by simp [hcs])
    have hlast := Clause.lastFragment?_append_cons hf ahead hb
    rw [← hcs] at hlast
    obtain ⟨c, own, rest, hown, hst, -⟩ := hfilter f hlast
    rw [Clause.fragment_of_filter hf] at hst
    exact ⟨c, own, rest, hown, hst⟩
  · rintro ⟨c, hc, hk⟩ hch r hr
    have hi : ∀ k records, o ≠ .insert k records := by
      rintro k records rfl
      exact hch
    obtain ⟨hall, hfilter⟩ := filter_of_mem_requests he (own?_of_onRecords ho hi) hr
    obtain ⟨f, hlast⟩ := Clause.lastFragment?_of_mem hall hc
    rw [hk] at hlast
    obtain ⟨b, hb, hbk, hbf⟩ := Clause.mem_of_lastFragment? hlast
    obtain ⟨condition, params, rfl⟩ := Clause.eq_filter_of_kind hbk
    obtain ⟨-, own, rest, -, hst, hrest⟩ := hfilter f hlast
    rw [Clause.fragment_of_filter hbf, hrest hch] at hst
    exact ⟨own, condition, params, hb, hst⟩

/-- A delete after a filter without its parameter, and one after a filter that replaces another. -/
theorem failed_filter_never_widens_users :
    let e : Engine Declaration.userFamily Script ScriptedCursor :=
      { executor := Script.executor, dialect := .sqlite, state := ⟨[], []⟩ }
    let s := Session.fresh .sqlite none
    run (.delete ())
        (runAll [.limit (.zero _), .filter "id = ?" [], .filter "active" []] s e).2.1 e =
      (.number (.error (.clause (.render .filter (.placeholderCount 1 0)))), s, e) ∧
    let past := [.filter "id = ?" [.ofInt 1], .filter " active" []]
    ∀ r ∈ requests [.delete ()] (runAll past s e).2.1 e,
      (∃ own rest, r.statement = .ofFragments (own :: ⟨"WHERE active", []⟩ :: rest)) ∧
        ∃ own f, r.statement = .ofFragments [own, f] := by
  intro e s
  have h₁ := failed_filter_never_widens .sqlite none (e := e) Registry.sound_empty
    [.limit (.zero _), .filter "id = ?" [], .filter "active" []] (o := .delete ()) trivial
  have h₂ := failed_filter_never_widens .sqlite none (e := e) Registry.sound_empty
    [.filter "id = ?" [.ofInt 1], .filter " active" []] (o := .delete ()) trivial
  constructor
  · exact (h₁.1 [.limit (.zero _)] (.filter "id = ?" []) [.filter "active" []] _ rfl
      (by simp [Clause.AllRender]; exact ⟨_, rfl⟩) rfl).1
  · intro past r hr
    obtain ⟨c, own, rest, -, hst⟩ := h₂.2.1 [.filter "id = ?" [.ofInt 1]] " active" [] [] rfl
      (List.forall_mem_nil _) nofun r hr
    obtain ⟨own', condition, params, -, hst'⟩ :=
      h₂.2.2 ⟨_, List.mem_cons_self, rfl⟩ trivial r hr
    exact ⟨⟨own, rest, hst⟩, own', _, hst'⟩

end Operation

end RecordMapper
