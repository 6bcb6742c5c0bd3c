import RecordMapper.Proofs.Clause.Scan
import RecordMapper.Proofs.Session.Filter

/-!
# Placeholders of statements

A query that finds records has as many placeholders as parameters, except in one case: its condition
leaves quoted text or a comment open and a limit follows. The limit stands on the line of the
condition, so the open text runs on into it and its placeholder is none. A condition that ends with
the line of a comment is open in this way, because trimming takes the end of the line away.

In the statements of all other operations on records the condition stands last, if there is one, and
what it leaves open swallows nothing. Names are quoted, so no name counts for a placeholder.
-/

namespace RecordMapper

variable {F : Family}

namespace Clause

variable {d : Dialect}

/-- The last filter leaves quoted text or a comment open, and there is a limit behind it. -/
def SwallowsLimit (d : Dialect) (cs : List Clause) : Prop :=
  (∃ f, lastFragment? d .filter cs = some f ∧ Placeholder.Open f.sql) ∧
    ∃ g, lastFragment? d .limit cs = some g

theorem count_lastFilter {cs : List Clause} {f : Fragment}
    (h : lastFragment? d .filter cs = some f) : Placeholder.count f.sql = f.params.length := by
  obtain ⟨c, -, hk, hf⟩ := mem_of_lastFragment? h
  obtain ⟨condition, params, rfl⟩ := eq_filter_of_kind hk
  exact count_filter (fragment_of_render hf)

theorem lastLimit_eq {cs : List Clause} {g : Fragment} (h : lastFragment? d .limit cs = some g) :
    ∃ i, g = ⟨"LIMIT ?", [.integer i]⟩ := by
  obtain ⟨c, -, hk, hg⟩ := mem_of_lastFragment? h
  cases c with
  | limit n =>
    obtain ⟨i, -, rfl⟩ := fragment_limit.1 (fragment_of_render hg)
    exact ⟨i, rfl⟩
  | _ => cases hk

end Clause

namespace Statement

open Clause Clause.Placeholder

variable {own f : Fragment} {i : Integer64}

/-- Behind a fragment that counts for its parameters, a statement counts as its last fragment
does. -/
theorem count_pair (ho : Adds own.params.length own.sql) :
    Placeholder.count (ofFragments [own, f]).sql =
      own.params.length + Placeholder.count f.sql := by
  have hsep : Adds 0 " " := adds_text (by decide)
  rw [ofFragments_pair, (ho.append hsep).count_append, Nat.add_zero]

theorem count_limit (ho : Adds own.params.length own.sql) :
    Placeholder.count (ofFragments [own, f, ⟨"LIMIT ?", [.integer i]⟩]).sql =
      own.params.length + Placeholder.count (f.sql ++ " LIMIT ?") := by
  have hl : " " ++ "LIMIT ?" = " LIMIT ?" := by decide
  have hs : (ofFragments [own, f, ⟨"LIMIT ?", [.integer i]⟩]).sql =
      own.sql ++ " " ++ (f.sql ++ " LIMIT ?") := by
    simp [ofFragments, String.intercalate_cons_cons, String.append_assoc, ← hl]
  have hsep : Adds 0 " " := adds_text (by decide)
  rw [hs, (ho.append hsep).count_append, Nat.add_zero]

/-- The statement of a query counts for its parameters, unless its condition swallows the limit. -/
theorem count_query {d : Dialect} {cs : List Clause} (ho : Adds own.params.length own.sql)
    (hord : lastFragment? d .order cs = none) {st : Statement}
    (hst : st = ofFragments
      (own :: Operation.stagedKinds.filterMap fun k => lastFragment? d k cs)) :
    (¬ SwallowsLimit d cs → Placeholder.count st.sql = st.params.length) ∧
      (SwallowsLimit d cs → Placeholder.count st.sql + 1 = st.params.length) := by
  simp only [Operation.stagedKinds, List.filterMap_cons, List.filterMap_nil, hord] at hst
  cases hf : lastFragment? d .filter cs with
  | none =>
    -- without a condition there is nothing that could stay open
    have hs : ¬ SwallowsLimit d cs := by
      rintro ⟨⟨f, hf', -⟩, -⟩
      rw [hf] at hf'
      cases hf'
    refine ⟨fun _ => ?_, fun h => absurd h hs⟩
    cases hl : lastFragment? d .limit cs with
    | none =>
      simp only [hf, hl] at hst
      exact hst ▸ (adds_ofFragments (by simpa using ho)).count
    | some g =>
      obtain ⟨i, rfl⟩ := lastLimit_eq hl
      have hg : Adds 1 "LIMIT ?" := adds_marked (by decide)
      simp only [hf, hl] at hst
      exact hst ▸ (adds_ofFragments (by simpa using ⟨ho, hg⟩)).count
  | some f =>
    have hc := count_lastFilter hf
    cases hl : lastFragment? d .limit cs with
    | none =>
      have hs : ¬ SwallowsLimit d cs := by
        rintro ⟨-, g, hl'⟩
        rw [hl] at hl'
        cases hl'
      simp only [hf, hl] at hst
      refine ⟨fun _ => ?_, fun h => absurd h hs⟩
      rw [hst, count_pair ho, hc]
      simp [ofFragments]
    | some g =>
      obtain ⟨i, rfl⟩ := lastLimit_eq hl
      simp only [hf, hl] at hst
      have hlen : st.params.length = own.params.length + (f.params.length + 1) := by
        simp [hst, ofFragments]
      rw [hlen, hst, count_limit ho]
      by_cases hopen : Open f.sql
      · have hs : SwallowsLimit d cs := ⟨⟨f, hf, hopen⟩, _, hl⟩
        refine ⟨fun h => absurd hs h, fun _ => ?_⟩
        rw [count_append_limit_of_open hopen, hc]
        omega
      · have hs : ¬ SwallowsLimit d cs := by
          rintro ⟨⟨f', hf', hopen'⟩, -⟩
          rw [hf] at hf'
          cases hf'
          exact hopen hopen'
        refine ⟨fun _ => ?_, fun h => absurd h hs⟩
        rw [count_append_limit_of_not_open hopen, hc]

/-- A statement that ends with its condition, if it has one, counts for its parameters. -/
theorem count_filtered {d : Dialect} {cs : List Clause} (ho : Adds own.params.length own.sql)
    {st : Statement}
    (hst : st = ofFragments (own :: [.filter].filterMap fun k => lastFragment? d k cs)) :
    Placeholder.count st.sql = st.params.length := by
  rw [hst]
  cases hf : lastFragment? d .filter cs with
  | none =>
    have hone : [.filter].filterMap (fun k => lastFragment? d k cs) = [] := by simp [hf]
    rw [hone]
    exact (adds_ofFragments (by simpa using ho)).count
  | some f =>
    have htwo : [.filter].filterMap (fun k => lastFragment? d k cs) = [f] := by simp [hf]
    rw [htwo, count_pair ho, count_lastFilter hf, ofFragments_pair, List.length_append]

end Statement

namespace Operation

/-- An operation that finds records. -/
def Finds : Operation F → Prop
  | find .. | first .. => True
  | _ => False

theorem own?_of_finds {o : Operation F} (ho : o.Finds) :
    ∃ k, o.own? = some ⟨k, fun t => .ok (.select t.name t.columns)⟩ ∧ o.placed = stagedKinds := by
  cases o with
  | find k dest => exact ⟨k, rfl, rfl⟩
  | first k => exact ⟨k, rfl, rfl⟩
  | _ => exact ho.elim

theorem lastOrder_consumed {d : Dialect} (o : Operation F) {cs : List Clause}
    (h : ∀ c ∈ cs, c.kind ≠ .order) : Clause.lastFragment? d .order (o.consumed cs) = none := by
  cases o with
  | first k =>
    rw [consumed, Clause.lastFragment?_concat_of_ne (by simp [Clause.kind])]
    exact Clause.lastFragment?_eq_none h
  | _ => exact Clause.lastFragment?_eq_none h

/-- Without an ordering, the placeholders in the statement of an operation that finds records are as
many as its parameters, except that the placeholder of a limit is lost where the condition before it
leaves quoted text or a comment open. -/
theorem placeholders_of_finds {σ κ : Type} [Cursor κ] {d : Dialect} (hd : d ≠ .generic)
    (hint? : Option String) {e : Engine F σ κ} (he : e.registry.Sound) (past : List (Operation F))
    (hpast : ∀ c ∈ collected past, c.kind ≠ .order) {o : Operation F} (ho : o.Finds) :
    let (_, s, e) := runAll past (.fresh d hint?) e
    ∀ r ∈ requests [o] s e,
      (Clause.Placeholder.count r.statement.sql = r.statement.params.length ↔
        ¬ Clause.SwallowsLimit d (o.consumed (collected past))) ∧
      (Clause.SwallowsLimit d (o.consumed (collected past)) →
        Clause.Placeholder.count r.statement.sql + 1 = r.statement.params.length) := by
  intro r hr
  obtain ⟨st, hst, rfl⟩ := mem_requests_runAll he hr
  obtain ⟨k, hown, hplaced⟩ := own?_of_finds ho
  obtain ⟨schema, c, own, -, hc, hrender, -, hst⟩ := statement_of_collected hown hst
  have hadds : Clause.Placeholder.Adds own.params.length own.sql := by
    cases hc
    exact Clause.adds_fragment hd (by simp [Clause.kind]) (by simp [Clause.kind])
      (Clause.fragment_of_render hrender)
  rw [hplaced] at hst
  obtain ⟨hno, hyes⟩ := Statement.count_query hadds (lastOrder_consumed o hpast) hst
  rw [statement_request]
  refine ⟨⟨fun hcount hs => ?_, hno⟩, hyes⟩
  have := hyes hs
  omega

/-- The limit is lost behind a condition that ends with a comment, although the comment's line was
ended before the condition was trimmed. -/
theorem placeholders_of_finds_users :
    let e : Engine Declaration.userFamily Script ScriptedCursor :=
      { executor := Script.executor, dialect := .sqlite, state := ⟨[], []⟩ }
    let past := [.limit (.clamp _ 2), .filter "id > ? -- all\n" [.ofInt 9]]
    let s := (runAll past (.fresh .sqlite none) e).2.1
    ∀ r ∈ requests [.find () []] s e,
      Clause.Placeholder.count r.statement.sql + 1 = r.statement.params.length := by
  intro e past s r hr
  have h := placeholders_of_finds (d := .sqlite) nofun none (e := e) Registry.sound_empty past
    (by decide) (o := .find () []) trivial r hr
  exact h.2 ⟨⟨_, rfl, by decide⟩, _, rfl⟩

/-- The placeholders of a query are not always as many as its parameters, and a store refuses such a
query. -/
theorem placeholders_of_finds_differ :
    let e : Engine Declaration.userFamily Script ScriptedCursor :=
      { executor := Script.executor, dialect := .sqlite,
        state := ⟨[], [.error (.storage (.parameterCount 2 1))]⟩ }
    let past := [.filter "id > ? -- all\n" [.ofInt 9]]
    let s := (runAll past (.fresh .sqlite none) e).2.1
    ∃ r ∈ requests [.first ()] s e,
      Clause.Placeholder.count r.statement.sql ≠ r.statement.params.length := by
  decide

/-! ## Statements that take no limit -/

/-- The clause that an operation adds to the collected ones counts for its parameters. -/
theorem adds_own {d : Dialect} (hd : d ≠ .generic) {o : Operation F} {k : F.Key}
    {own : TableSchema (F.Rec k) → Except Error Clause} (ho : o.own? = some ⟨k, own⟩)
    {schema : TableSchema (F.Rec k)} {c : Clause} (hc : own schema = .ok c) {f : Fragment}
    (hf : c.render d = .ok f) : Clause.Placeholder.Adds f.params.length f.sql := by
  have hkind : c.kind ≠ .filter ∧ c.kind ≠ .order := by
    cases o <;> cases ho
    case update assignments =>
      dsimp only at hc
      cases hr : Session.resolve schema assignments <;> rw [hr] at hc <;> cases hc
      simp [Clause.kind]
    all_goals cases hc; simp [Clause.kind]
  exact Clause.adds_fragment hd hkind.1 hkind.2 (Clause.fragment_of_render hf)

/-- An insert has as many placeholders as parameters, whatever was collected before it. -/
theorem placeholders_of_insert {d : Dialect} (hd : d ≠ .generic) {k : F.Key}
    {records : List (F.Rec k)} {hint? : Option String} {cs : List Clause} {st : Statement}
    (h : ((Session.fresh d hint?).stageAll cs).insertStatement k records = .ok st) :
    Clause.Placeholder.count st.sql = st.params.length := by
  obtain ⟨schema, rows, f, g, -, -, hf, hg, -, rfl⟩ := Session.insertStatement_ok h
  have hadds : ∀ x ∈ [f, g], Clause.Placeholder.Adds x.params.length x.sql := by
    refine List.forall_mem_cons.2 ⟨?_, List.forall_mem_singleton.2 ?_⟩
    · exact Clause.adds_fragment hd (by simp [Clause.kind]) (by simp [Clause.kind])
        (Clause.fragment_of_render hf)
    · exact Clause.adds_fragment hd (by simp [Clause.kind]) (by simp [Clause.kind])
        (Clause.fragment_of_render hg)
  exact (Statement.adds_ofFragments hadds).count

/-- The placeholders in the statement of an insert, an update, a delete or a count are as many as
its parameters, whatever the names in it are and whatever the condition leaves open: such a
statement ends with its condition. -/
theorem placeholders_without_limit {σ κ : Type} [Cursor κ] {d : Dialect} (hd : d ≠ .generic)
    (hint? : Option String) {e : Engine F σ κ} (he : e.registry.Sound) (past : List (Operation F))
    {o : Operation F} (ho : o.OnRecords) (hf : ¬ o.Finds) :
    let (_, s, e) := runAll past (.fresh d hint?) e
    ∀ r ∈ requests [o] s e,
      Clause.Placeholder.count r.statement.sql = r.statement.params.length := by
  intro r hr
  obtain ⟨st, hst, rfl⟩ := mem_requests_runAll he hr
  rw [statement_request]
  have hcount {k own} (hown : o.own? = some ⟨k, own⟩) (hplaced : o.placed = [.filter]) :
      Clause.Placeholder.count st.sql = st.params.length := by
    obtain ⟨schema, c, f, -, hc, hrender, -, hst⟩ := statement_of_collected hown hst
    rw [hplaced] at hst
    exact Statement.count_filtered (adds_own hd hown hc hrender) hst
  cases o with
  | insert k records => exact placeholders_of_insert hd (Option.some.inj hst)
  | find | first => exact absurd trivial hf
  | update | delete | count => exact hcount rfl rfl
  | _ => exact ho.elim

/-- An update in which the names of the table and of a column look like placeholders and like the
openings of comments, under a condition that ends in a comment. -/
theorem placeholders_without_limit_odd :
    let odd : Declaration :=
      { typeName := "app::Odd", table? := some "?\"--",
        fields := [{ name := "a", type := .scalar .text }],
        mapped := [(⟨0, by decide⟩, some "/*?\", \"")] }
    let e : Engine (Declaration.family fun _ : Unit => odd) Script ScriptedCursor :=
      { executor := Script.executor, dialect := .sqlite, state := ⟨[], []⟩ }
    let past := [.limit (.zero _), .filter "a > ? -- ?" [.ofInt 1]]
    let (_, s, e) := runAll past (.fresh .sqlite none) e
    let text := "UPDATE \"?\"\"--\" SET \"/*?\"\", \"\"\" = ? WHERE a > ? -- ?"
    requests [.update () [("a", .null)]] s e = [.exec ⟨text, [.null, .ofInt 1]⟩] ∧
      ∀ r ∈ requests [.update () [("a", .null)]] s e,
        Clause.Placeholder.count r.statement.sql = r.statement.params.length := by
  intro odd e past
  exact ⟨by decide, placeholders_without_limit (d := .sqlite) nofun none (e := e)
    Registry.sound_empty past (o := .update () [("a", .null)]) trivial id⟩

end Operation

end RecordMapper
