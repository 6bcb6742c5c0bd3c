import RecordMapper.Executor.Scripted
import RecordMapper.Proofs.Clause.Outline
import RecordMapper.Proofs.Schema.Declared
import RecordMapper.Proofs.Session.Filter

/-!
# Values stay out of the text

Two runs that differ in values alone, that is in the fields of records, in assigned values, in the
parameters of conditions and in limits, collect clauses of the same outlines. Wherever both issue a
statement the texts are the same, although one run may have failed where the other did not.
-/

namespace RecordMapper

variable {F : Family}

namespace Clause

/-- The last fragment of a kind has the form of the last fragment of the outlines. -/
theorem lastFragment?_outline {d : Dialect} {cs : List Clause} (hcs : AllRender d cs) (k : Kind) :
    (lastFragment? d k cs).map Fragment.form =
      (lastFragment? d k (cs.map outline)).map Fragment.form := by
  induction cs with
  | nil => rfl
  | cons c cs ih =>
    obtain ⟨⟨f, hf⟩, hcs⟩ := List.forall_mem_cons.1 hcs
    obtain ⟨g, hg, hform⟩ := render_outline hf
    rw [List.map_cons, lastFragment?, lastFragment?, Option.map_or, Option.map_or, ih hcs,
      kind_outline, hf, hg]
    split
    · exact congrArg _ (congrArg some hform.symm)
    · rfl

/-- Clauses of the same outlines that all render leave last fragments of the same forms. -/
theorem map_form_lastFragment? {d : Dialect} {bs cs : List Clause}
    (h : bs.map outline = cs.map outline) (hbs : AllRender d bs) (hcs : AllRender d cs)
    (ks : List Kind) :
    (ks.filterMap fun k => lastFragment? d k bs).map Fragment.form =
      (ks.filterMap fun k => lastFragment? d k cs).map Fragment.form := by
  have hforms : (fun k => (lastFragment? d k bs).map Fragment.form) =
      fun k => (lastFragment? d k cs).map Fragment.form := by
    funext k
    rw [lastFragment?_outline hbs, lastFragment?_outline hcs, h]
  rw [List.map_filterMap, List.map_filterMap, hforms]

end Clause

namespace Operation

/-- Two operations that differ in values alone. The destination of a find has no part in its
statement and may differ, too. -/
inductive SameText : Operation F → Operation F → Prop
  | filter (condition : String) {ps qs : List Value} (h : ps.length = qs.length) :
    SameText (.filter condition ps) (.filter condition qs)
  | order (ordering : String) : SameText (.order ordering) (.order ordering)
  | limit (m n : Bounded .u64) : SameText (.limit m) (.limit n)
  | reset : SameText .reset .reset
  | insert (k : F.Key) {rs rs' : List (F.Rec k)} (h : rs.length = rs'.length) :
    SameText (.insert k rs) (.insert k rs')
  | find (k : F.Key) (dest dest' : List (F.Rec k)) : SameText (.find k dest) (.find k dest')
  | first (k : F.Key) : SameText (.first k) (.first k)
  | update (k : F.Key) {as bs : List (String × Value)} (h : as.map (·.1) = bs.map (·.1)) :
    SameText (.update k as) (.update k bs)
  | delete (k : F.Key) : SameText (.delete k) (.delete k)
  | count (k : F.Key) : SameText (.count k) (.count k)
  | execRaw (sql : String) {ps qs : List Value} (h : ps.length = qs.length) :
    SameText (.execRaw sql ps) (.execRaw sql qs)
  | queryRaw (sql : String) {ps qs : List Value} (h : ps.length = qs.length) :
    SameText (.queryRaw sql ps) (.queryRaw sql qs)

open Clause

variable {o₁ o₂ : Operation F} {cs₁ cs₂ : List Clause}

/-- Operations that differ in values alone collect clauses of one outline, or none. -/
theorem SameText.collect (ho : o₁.SameText o₂) (h : cs₁.map outline = cs₂.map outline) :
    (Operation.collect cs₁ o₁).map outline = (Operation.collect cs₂ o₂).map outline := by
  cases ho with
  | filter condition hl =>
    simp only [Operation.collect, clause?, List.map_append, h, List.map_cons, List.map_nil,
      outline, List.map_const', hl]
  | order ordering => simp only [Operation.collect, clause?, List.map_append, h]
  | limit m n =>
    simp only [Operation.collect, clause?, List.map_append, h, List.map_cons, List.map_nil,
      outline]
  | _ => rfl

theorem SameText.consumed (ho : o₁.SameText o₂) (h : cs₁.map outline = cs₂.map outline) :
    (o₁.consumed cs₁).map outline = (o₂.consumed cs₂).map outline := by
  cases ho with
  | first k => rw [Operation.consumed, Operation.consumed, List.map_append, List.map_append, h]
  | _ => exact h

/-- Runs that differ in values alone leave behind clauses of the same outlines. -/
theorem outline_collected {past₁ past₂ : List (Operation F)}
    (h : List.Forall₂ SameText past₁ past₂) :
    (collected past₁).map outline = (collected past₂).map outline := by
  suffices hfold : ∀ cs₁ cs₂ : List Clause, cs₁.map outline = cs₂.map outline →
      (past₁.foldl Operation.collect cs₁).map outline =
        (past₂.foldl Operation.collect cs₂).map outline from hfold [] [] rfl
  induction h with
  | nil => exact fun _ _ hcs => hcs
  | cons ho _ ih => exact fun _ _ hcs => ih _ _ (ho.collect hcs)

end Operation

namespace Session

/-- Updates of the same fields have one outline. -/
theorem outline_update {R : Type} {schema : TableSchema R} {as bs : List (String × Value)}
    (h : as.map (·.1) = bs.map (·.1)) {c₁ c₂ : Clause}
    (h₁ : (resolve schema as).map (Clause.update schema.name) = .ok c₁)
    (h₂ : (resolve schema bs).map (Clause.update schema.name) = .ok c₂) :
    c₁.outline = c₂.outline := by
  cases ha : resolve schema as with
  | error err =>
    rw [ha] at h₁
    cases h₁
  | ok rs =>
    cases hb : resolve schema bs with
    | error err =>
      rw [hb] at h₂
      cases h₂
    | ok rs' =>
      rw [ha] at h₁
      rw [hb] at h₂
      cases h₁
      cases h₂
      have hnames : rs.map (fun r => some r.1) = rs'.map (fun r => some r.1) := by
        rw [names_of_resolve ha, names_of_resolve hb, h]
      have hblank := congrArg (List.map fun n : Option String => (n.getD "", Value.null)) hnames
      rw [List.map_map, List.map_map] at hblank
      exact congrArg (Clause.update schema.name) hblank

/-- Inserts of equally many records have statements of one form. -/
theorem form_of_insert {k : F.Key} {records₁ records₂ : List (F.Rec k)}
    (h : records₁.length = records₂.length) {d : Dialect} {hint₁? hint₂? : Option String}
    {cs₁ cs₂ : List Clause} {st₁ st₂ : Statement}
    (h₁ : ((fresh d hint₁?).stageAll cs₁).insertStatement k records₁ = .ok st₁)
    (h₂ : ((fresh d hint₂?).stageAll cs₂).insertStatement k records₂ = .ok st₂) :
    st₁.form = st₂.form := by
  obtain ⟨schema, rows₁, f₁, g₁, hd₁, hm₁, hf₁, hg₁, -, rfl⟩ := insertStatement_ok h₁
  obtain ⟨schema', rows₂, f₂, g₂, hd₂, hm₂, hf₂, hg₂, -, rfl⟩ := insertStatement_ok h₂
  cases hd₁.symm.trans hd₂
  cases hf₁.symm.trans hf₂
  obtain ⟨hlen₁, hrows₁⟩ := TableSchema.lengths_of_mapM_recordValues hm₁
  obtain ⟨hlen₂, hrows₂⟩ := TableSchema.lengths_of_mapM_recordValues hm₂
  have hout : (Clause.values rows₁).outline = (Clause.values rows₂).outline := by
    rw [Clause.outline_values hrows₁, Clause.outline_values hrows₂, hlen₁, hlen₂, h]
  have hform := Clause.form_eq_of_outline_eq hout hg₁ hg₂
  apply Statement.form_ofFragments
  rw [List.map_cons, List.map_cons, List.map_cons, List.map_cons, hform]

end Session

namespace Operation

open Clause

/-- Operations on stored records have statements of one form where their own clauses have one
outline and the clauses that they consume have the same outlines. -/
theorem form_of_own {o₁ o₂ : Operation F} {d : Dialect} {hint₁? hint₂? : Option String}
    {cs₁ cs₂ : List Clause} {st₁ st₂ : Statement}
    (hst₁ : o₁.statement? ((Session.fresh d hint₁?).stageAll cs₁) = some (.ok st₁))
    (hst₂ : o₂.statement? ((Session.fresh d hint₂?).stageAll cs₂) = some (.ok st₂))
    (hcs : (o₁.consumed cs₁).map outline = (o₂.consumed cs₂).map outline)
    (hplaced : o₁.placed = o₂.placed) {k : F.Key}
    {own₁ own₂ : TableSchema (F.Rec k) → Except Error Clause} (h₁ : o₁.own? = some ⟨k, own₁⟩)
    (h₂ : o₂.own? = some ⟨k, own₂⟩)
    (hown : ∀ schema c₁ c₂, own₁ schema = .ok c₁ → own₂ schema = .ok c₂ →
      c₁.outline = c₂.outline) :
    st₁.form = st₂.form := by
  obtain ⟨schema, c₁, f₁, hd₁, hc₁, hf₁, hall₁, rfl⟩ := statement_of_collected h₁ hst₁
  obtain ⟨schema', c₂, f₂, hd₂, hc₂, hf₂, hall₂, rfl⟩ := statement_of_collected h₂ hst₂
  cases hd₁.symm.trans hd₂
  have hform := form_eq_of_outline_eq (hown _ _ _ hc₁ hc₂) hf₁ hf₂
  apply Statement.form_ofFragments
  rw [List.map_cons, List.map_cons, hform, hplaced, map_form_lastFragment? hcs hall₁ hall₂]

/-- Statements of operations that differ in values alone have one form. -/
theorem form_of_statement {o₁ o₂ : Operation F} (ho : o₁.SameText o₂) {cs₁ cs₂ : List Clause}
    (hcs : cs₁.map outline = cs₂.map outline) {d : Dialect} {hint₁? hint₂? : Option String}
    {st₁ st₂ : Statement}
    (hst₁ : o₁.statement? ((Session.fresh d hint₁?).stageAll cs₁) = some (.ok st₁))
    (hst₂ : o₂.statement? ((Session.fresh d hint₂?).stageAll cs₂) = some (.ok st₂)) :
    st₁.form = st₂.form := by
  have hconsumed := ho.consumed hcs
  have hsame {k : F.Key} {own : TableSchema (F.Rec k) → Except Error Clause} :
      ∀ schema c₁ c₂, own schema = .ok c₁ → own schema = .ok c₂ → c₁.outline = c₂.outline :=
    fun _ _ _ h₁ h₂ => congrArg outline (Except.ok.inj (h₁.symm.trans h₂))
  cases ho with
  | filter | order | limit | reset => cases hst₁
  | insert k h => exact Session.form_of_insert h (Option.some.inj hst₁) (Option.some.inj hst₂)
  | update k h =>
    exact form_of_own hst₁ hst₂ hconsumed rfl rfl rfl fun _ _ _ => Session.outline_update h
  | find | first | delete | count =>
    exact form_of_own hst₁ hst₂ hconsumed rfl rfl rfl hsame
  | execRaw sql h | queryRaw sql h =>
    cases hst₁
    cases hst₂
    exact Prod.ext rfl h

/-- Values never reach the text of a statement. In two runs that differ in values alone, whatever
their engines and labels are and whatever failed in one of them alone, an operation that makes a
request in both makes it with one text and one number of parameters. -/
theorem values_never_reach_text {σ₁ σ₂ κ₁ κ₂ : Type} [Cursor κ₁] [Cursor κ₂] (d : Dialect)
    (hint₁? hint₂? : Option String) {e₁ : Engine F σ₁ κ₁} {e₂ : Engine F σ₂ κ₂}
    (he₁ : e₁.registry.Sound) (he₂ : e₂.registry.Sound) {past₁ past₂ : List (Operation F)}
    (hpast : List.Forall₂ SameText past₁ past₂) {o₁ o₂ : Operation F} (ho : o₁.SameText o₂) :
    let (_, s₁, e₁) := runAll past₁ (.fresh d hint₁?) e₁
    let (_, s₂, e₂) := runAll past₂ (.fresh d hint₂?) e₂
    ∀ r₁ ∈ requests [o₁] s₁ e₁, ∀ r₂ ∈ requests [o₂] s₂ e₂,
      r₁.statement.sql = r₂.statement.sql ∧
        r₁.statement.params.length = r₂.statement.params.length := by
  intro r₁ hr₁ r₂ hr₂
  obtain ⟨st₁, hst₁, rfl⟩ := mem_requests_runAll he₁ hr₁
  obtain ⟨st₂, hst₂, rfl⟩ := mem_requests_runAll he₂ hr₂
  have hform := form_of_statement ho (outline_collected hpast) hst₁ hst₂
  rw [statement_request, statement_request]
  exact Prod.mk.inj hform

/-- Deletes by a name and by a text that would be a condition of its own. -/
theorem values_never_reach_text_users :
    let e : Engine Declaration.userFamily Script ScriptedCursor :=
      { executor := Script.executor, dialect := .sqlite, state := ⟨[], []⟩ }
    let s := Session.fresh .sqlite none
    let named (name : String) := [Operation.filter "full_name = ?" [.text name]]
    ∃ r₁ ∈ requests [.delete ()] (runAll (named "ann") s e).2.1 e,
      ∃ r₂ ∈ requests [.delete ()] (runAll (named "' OR 1 = 1 --") s e).2.1 e,
        r₁.statement.sql = r₂.statement.sql ∧ r₁.statement.params ≠ r₂.statement.params := by
  intro e s named
  have hpast : List.Forall₂ SameText (named "ann") (named "' OR 1 = 1 --") :=
    .cons (.filter _ rfl) .nil
  have he : e.registry.Sound := Registry.sound_empty
  have h := values_never_reach_text .sqlite none none he he hpast (.delete ())
  have h₁ : .exec ⟨"DELETE FROM \"users\" WHERE full_name = ?", [.text "ann"]⟩ ∈
      requests [.delete ()] (runAll (named "ann") s e).2.1 e := by
    decide
  have h₂ : .exec ⟨"DELETE FROM \"users\" WHERE full_name = ?", [.text "' OR 1 = 1 --"]⟩ ∈
      requests [.delete ()] (runAll (named "' OR 1 = 1 --") s e).2.1 e := by
    decide
  exact ⟨_, h₁, _, h₂, (h _ h₁ _ h₂).1, by decide⟩

end Operation

end RecordMapper
