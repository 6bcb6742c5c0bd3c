import RecordMapper.Executor.Scripted
import RecordMapper.Proofs.Schema.Declared
import RecordMapper.Proofs.Session.Statement

/-!
# Which statement an operation issues

After setter calls that all render, the statement of an operation on a valid model is its own
fragment with the last fragments of certain kinds behind it: condition, ordering and limit where
records are found, the condition alone where they are updated, deleted or counted, and none where
they are inserted. The order of the calls has no part in it.
-/

namespace RecordMapper

variable {F : Family}

namespace Session

/-- Assignments to fields of a schema are resolved to the columns of these fields. -/
theorem resolve_of_fields {R : Type} {schema : TableSchema R} {assignments : List (String × Value)}
    {fields : List (FieldDescriptor R)}
    (h : List.Forall₂ (fun a f => schema.field? a.1 = some f) assignments fields) :
    ∃ resolved, resolve schema assignments = .ok resolved ∧
      resolved.map (·.1) = fields.map (·.column) ∧
      resolved.map (·.2) = assignments.map (·.2) := by
  induction h with
  | nil => exact ⟨[], rfl, rfl, rfl⟩
  | @cons a f assignments fields hf _ ih =>
    obtain ⟨resolved, hr, hcolumns, hvalues⟩ := ih
    refine ⟨(f.column, a.2) :: resolved, ?_, ?_, ?_⟩
    · rw [resolve, hf, hr]
      rfl
    · rw [List.map_cons, List.map_cons, hcolumns]
    · rw [List.map_cons, List.map_cons, hvalues]

theorem mem_fields_of_assigned {R : Type} {schema : TableSchema R}
    {assignments : List (String × Value)} {fields : List (FieldDescriptor R)}
    (h : List.Forall₂ (fun a f => schema.field? a.1 = some f) assignments fields) :
    ∀ f ∈ fields, f ∈ schema.fields := by
  induction h with
  | nil => exact List.forall_mem_nil _
  | cons hf _ ih => exact List.forall_mem_cons.2 ⟨TableSchema.mem_of_field? hf, ih⟩

/-- An assignment to a field that is missing keeps all of them from being resolved. -/
theorem exists_field_of_resolve {R : Type} {schema : TableSchema R}
    {assignments resolved : List (String × Value)} (h : resolve schema assignments = .ok resolved) :
    ∀ a ∈ assignments, ∃ f, schema.field? a.1 = some f := by
  intro a ha
  have hm : (schema.field? a.1).map (·.column) ∈ resolved.map fun r => some r.1 := by
    rw [names_of_resolve h]
    exact List.mem_map_of_mem (List.mem_map_of_mem ha)
  obtain ⟨r, -, hr⟩ := List.mem_map.1 hm
  obtain ⟨f, hf, -⟩ := Option.map_eq_some_iff.1 hr.symm
  exact ⟨f, hf⟩

end Session

namespace Operation

variable {d : Dialect} {hint? : Option String} {cs : List Clause} {k : F.Key}
  {schema : TableSchema (F.Rec k)}

/-- Finding the first record consumes a limit of its own instead of the last one collected. -/
theorem lastFragment?_first (cs : List Clause) :
    (placed (first k)).filterMap (fun kind => Clause.lastFragment? d kind (consumed cs (first k))) =
      ([.filter, .order].filterMap fun kind => Clause.lastFragment? d kind cs) ++
        [⟨"LIMIT ?", [.ofInt 1]⟩] := by
  have hlimit : Clause.lastFragment? d .limit (cs ++ [.limit Session.single]) =
      some ⟨"LIMIT ?", [.ofInt 1]⟩ :=
    Clause.lastFragment?_append_cons (c := .limit Session.single) rfl cs (List.forall_mem_nil _)
  have hfilter : Clause.lastFragment? d .filter (cs ++ [.limit Session.single]) =
      Clause.lastFragment? d .filter cs :=
    Clause.lastFragment?_concat_of_ne (by simp [Clause.kind]) cs
  have horder : Clause.lastFragment? d .order (cs ++ [.limit Session.single]) =
      Clause.lastFragment? d .order cs :=
    Clause.lastFragment?_concat_of_ne (by simp [Clause.kind]) cs
  have hplaced : (first k).placed = [.filter, .order] ++ [.limit] := rfl
  rw [hplaced, List.filterMap_append, consumed]
  simp only [List.filterMap_cons, List.filterMap_nil, hlimit, hfilter, horder]

/-- The statement of an update whose assignments all have fields. -/
theorem statement_of_update (hd : TableSchema.derive (F.model k) = .ok schema)
    (hall : Clause.AllRender d cs) {assignments : List (String × Value)} (hn : assignments ≠ [])
    {fields : List (FieldDescriptor (F.Rec k))}
    (hf : List.Forall₂ (fun a f => schema.field? a.1 = some f) assignments fields) :
    (update k assignments).statement? ((Session.fresh d hint?).stageAll cs) =
      some (.ok (.ofFragments
        (⟨Clause.updateText d schema.name (fields.map (·.column)), assignments.map (·.2)⟩ ::
          [.filter].filterMap fun kind => Clause.lastFragment? d kind cs))) := by
  have hs := TableSchema.wellFormed_of_derive hd
  obtain ⟨resolved, hr, hcolumns, hvalues⟩ := Session.resolve_of_fields hf
  have hne : resolved ≠ [] := by
    rintro rfl
    exact hn (List.map_eq_nil_iff.1 hvalues.symm)
  have hempty : "" ∉ resolved.map (·.1) := by
    rw [hcolumns]
    intro hm
    obtain ⟨f, hm, hcolumn⟩ := List.mem_map.1 hm
    have hfield := Session.mem_fields_of_assigned hf f hm
    exact hs.columns (hcolumn ▸ List.mem_map_of_mem hfield)
  have hrender := Clause.render_update (d := d) hs.name hne hempty
  rw [hcolumns, hvalues] at hrender
  refine statement_of_rendered hint? rfl hd ?_ hrender hall
  rw [hr]
  rfl

/-- An update of nothing and one of a field that the model does not have are not issued. -/
theorem no_statement_of_update (hd : TableSchema.derive (F.model k) = .ok schema)
    {assignments : List (String × Value)}
    (h : assignments = [] ∨ ∃ a ∈ assignments, schema.field? a.1 = none) (st : Statement) :
    (update k assignments).statement? ((Session.fresh d hint?).stageAll cs) ≠ some (.ok st) := by
  intro hst
  obtain ⟨schema', c, f, hd', hc, hf, -, -⟩ := statement_of_collected rfl hst
  cases hd.symm.trans hd'
  cases hr : Session.resolve schema assignments with
  | error err =>
    rw [hr] at hc
    cases hc
  | ok resolved =>
    rw [hr] at hc
    cases hc
    rcases h with rfl | ⟨a, ha, hnone⟩
    · cases hr
      exact (Clause.fragment_update.1 (Clause.fragment_of_render hf)).2.1 rfl
    · obtain ⟨g, hg⟩ := Session.exists_field_of_resolve hr a ha
      cases hnone.symm.trans hg

/-- What the operations issue after setter calls that all render: of the clauses that were staged
of a kind the last one counts, and the clauses stand in one order. Finding the first record has a
limit of its own; updates, deletes and counts have no place for an ordering or a limit, and inserts
for none of the clauses. No operation makes more than one request. -/
theorem each_issues_last_clauses {σ κ : Type} [Cursor κ] (d : Dialect) (hint? : Option String)
    {e : Engine F σ κ} (he : e.registry.Sound) (past : List (Operation F))
    (hall : Clause.AllRender d (collected past)) {k : F.Key} {schema : TableSchema (F.Rec k)}
    (hd : TableSchema.derive (F.model k) = .ok schema) :
    let (_, s, e) := runAll past (.fresh d hint?) e
    let last (kind : Clause.Kind) := Clause.lastFragment? d kind (collected past)
    let joined (fs : List Fragment) : Statement :=
      ⟨String.intercalate " " (fs.map (·.sql)), fs.flatMap (·.params)⟩
    let select : Fragment := ⟨Clause.selectText d schema.name schema.columns, []⟩
    (∀ dest, requests [find k dest] s e =
      [.query (joined (select :: [.filter, .order, .limit].filterMap last))]) ∧
    requests [first k] s e =
      [.query (joined (select ::
        ([.filter, .order].filterMap last ++ [⟨"LIMIT ?", [.ofInt 1]⟩])))] ∧
    (∀ assignments fields, assignments ≠ [] →
      List.Forall₂ (fun a f => schema.field? a.1 = some f) assignments fields →
      requests [update k assignments] s e = [.exec (joined
        (⟨Clause.updateText d schema.name (fields.map (·.column)), assignments.map (·.2)⟩ ::
          [.filter].filterMap last))]) ∧
    (∀ assignments, (assignments = [] ∨ ∃ a ∈ assignments, schema.field? a.1 = none) →
      requests [update k assignments] s e = []) ∧
    requests [delete k] s e =
      [.exec (joined (⟨Clause.deleteText d schema.name, []⟩ :: [.filter].filterMap last))] ∧
    requests [count k] s e =
      [.query (joined (⟨Clause.countText d schema.name, []⟩ :: [.filter].filterMap last))] ∧
    (∀ records, requests [insert k records] s e = requests [insert k records] (.fresh d hint?) e ∧
      ((insert k records).run s e).1 = ((insert k records).run (.fresh d hint?) e).1) ∧
    ∀ o : Operation F, (requests [o] s e).length ≤ 1 := by
  have hs := TableSchema.wellFormed_of_derive hd
  have hsound := (runAll_issues he past (.fresh d hint?)).sound
  have hselect := Clause.render_select (d := d) hs.name hs.columns_ne_nil hs.columns
  have hinsert (records : List (F.Rec k)) :
      (insert k records).action ((Session.fresh d hint?).stageAll (collected past)) =
        (insert k records).action (.fresh d hint?) := by
    rw [action, action, statement?, statement?, Session.insertStatement_stageAll hall]
  have hafter (o : Operation F) := requests_after_run he past d hint? o
  have hsession := runAll_session past d hint? e
  dsimp only
  generalize collected past = cs at hall hinsert hafter hsession ⊢
  refine ⟨fun dest => ?_, ?_, fun assignments fields hn hf => ?_, fun assignments h => ?_, ?_, ?_,
    fun records => ⟨?_, ?_⟩, fun o => ?_⟩
  · have hst := statement_of_rendered (o := find k dest) hint? rfl hd rfl hselect hall
    rw [hafter, requests_of_statement hst]
    rfl
  · have hlimited : Clause.AllRender d (consumed cs (first k)) :=
      List.forall_mem_append.2 ⟨hall, List.forall_mem_singleton.2 ⟨_, rfl⟩⟩
    have hst := statement_of_rendered (o := first k) hint? rfl hd rfl hselect hlimited
    rw [lastFragment?_first] at hst
    rw [hafter, requests_of_statement hst]
    rfl
  · rw [hafter, requests_of_statement (statement_of_update hd hall hn hf)]
    rfl
  · rw [hafter, requests_of_no_statement (no_statement_of_update hd h)]
  · have hst := statement_of_rendered (o := delete k) hint? rfl hd rfl
      (Clause.render_delete hs.name) hall
    rw [hafter, requests_of_statement hst]
    rfl
  · have hst := statement_of_rendered (o := count k) hint? rfl hd rfl
      (Clause.render_count hs.name) hall
    rw [hafter, requests_of_statement hst]
    rfl
  · rw [hafter, hinsert, ← List.nil_append [insert k records],
      requests_setters_concat hsound (List.forall_mem_nil _)]
    rfl
  · rw [hsession]
    exact run_alike hsound hsound (hinsert records) fun r _ => .refl _ r
  · rw [hafter]
    exact Action.length_requests_le _

/-- Orderings, a limit and filters, of which the last ones are not all at the end. -/
theorem each_issues_last_clauses_users :
    let e : Engine Declaration.userFamily Script ScriptedCursor :=
      { executor := Script.executor, dialect := .sqlite, state := ⟨[], []⟩ }
    let (_, s, e) := runAll [.order "id", .limit (.zero _), .filter "id < ?" [.ofInt 9],
      .order " full_name DESC", .filter "active" []] (.fresh .sqlite none) e
    let select := "SELECT \"id\", \"full_name\", \"active\", \"seen\" FROM \"users\""
    requests [find () []] s e =
      [.query ⟨select ++ " WHERE active ORDER BY full_name DESC LIMIT ?", [.ofInt 0]⟩] ∧
    requests [first ()] s e =
      [.query ⟨select ++ " WHERE active ORDER BY full_name DESC LIMIT ?", [.ofInt 1]⟩] ∧
    requests [update () [("name", .text "Bo"), ("seen", .null)]] s e =
      [.exec ⟨"UPDATE \"users\" SET \"full_name\" = ?, \"seen\" = ? WHERE active",
        [.text "Bo", .null]⟩] ∧
    requests [update () [("name", .text "Bo"), ("visits", .null)]] s e = [] ∧
    requests [delete ()] s e = [.exec ⟨"DELETE FROM \"users\" WHERE active", []⟩] := by
  intro e
  have hd : TableSchema.derive Declaration.users.model = .ok Declaration.users.model.layout := rfl
  have hall : Clause.AllRender .sqlite (collected (F := Declaration.userFamily) [.order "id",
      .limit (.zero _), .filter "id < ?" [.ofInt 9], .order " full_name DESC",
      .filter "active" []]) := by
    simp only [collected, List.foldl_cons, List.foldl_nil, Operation.collect, clause?,
      Clause.AllRender, List.nil_append, List.cons_append, List.forall_mem_cons]
    exact ⟨⟨_, rfl⟩, ⟨_, rfl⟩, ⟨_, rfl⟩, ⟨_, rfl⟩, ⟨_, rfl⟩, List.forall_mem_nil _⟩
  obtain ⟨hfind, hfirst, hupdate, hmissing, hdelete, -, -, -⟩ :=
    each_issues_last_clauses .sqlite none (e := e) Registry.sound_empty _ hall (k := ()) hd
  have hassigned := hupdate [("name", .text "Bo"), ("seen", .null)]
    [Fields.descriptor Declaration.users.fields ⟨1, by decide⟩ (some "full_name"),
      Fields.descriptor Declaration.users.fields ⟨3, by decide⟩ none]
    (List.cons_ne_nil _ _) (.cons rfl (.cons rfl .nil))
  refine ⟨(hfind []).trans rfl, hfirst.trans rfl, ?_, ?_, hdelete.trans rfl⟩
  · exact hassigned.trans rfl
  · exact hmissing _ (.inr ⟨("visits", .null), by simp, rfl⟩)

end Operation

end RecordMapper
