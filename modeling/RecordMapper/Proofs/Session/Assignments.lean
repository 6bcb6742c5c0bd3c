import RecordMapper.Executor.Scripted
import RecordMapper.Proofs.Schema.Lookup
import RecordMapper.Proofs.Session.Filter
import RecordMapper.Proofs.Session.Issued

/-!
# Assignments

What an update assigns to. Each assignment goes to the column of the field that its key belongs to,
in the order of the assignments. A key is a name or a column, so one field can be given twice, by
its name and by its column; this is the only way in which an update with different keys assigns to
a column twice.
-/

namespace RecordMapper

/-- Records of which two fields are stored in columns with each other's names. -/
def Declaration.swapped : Declaration where
  typeName := "app::Swap"
  table? := some "swap"
  fields := [
    { name := "left", type := .scalar (.integer .i64) },
    { name := "right", type := .scalar (.integer .i64) },
    { name := "own", type := .scalar (.integer .i64) }]
  mapped := [
    (⟨0, by decide⟩, some "right"),
    (⟨1, by decide⟩, some "left"),
    (⟨2, by decide⟩, none)]

/-- The family of these records alone. -/
abbrev Declaration.swappedFamily : Family := family fun _ : Unit => swapped

variable {F : Family}

/-- The columns that are assigned to are those that the keys find. -/
theorem Session.columns_of_found {R : Type} {schema : TableSchema R}
    {assignments : List (String × Value)} {fields : List (FieldDescriptor R)}
    (h : List.Forall₂ (fun a f => schema.field? a.1 = some f) assignments fields) :
    (fields.map (·.column)).map some =
      (assignments.map (·.1)).map fun x => (schema.field? x).map (·.column) := by
  induction h with
  | nil => rfl
  | cons hf _ ih => simp only [List.map_cons, hf, ih, Option.map_some]

namespace Operation

/-- The request of an update that assigns values to columns, under the last condition among the
collected clauses. -/
def assigning (d : Dialect) (cs : List Clause) (table : String) (columns : List String)
    (values : List Value) : Request :=
  .exec (.ofFragments (⟨Clause.updateText d table columns, values⟩ ::
    [.filter].filterMap fun kind => Clause.lastFragment? d kind cs))

section Update

variable {σ κ : Type} [Cursor κ] {d : Dialect} {hint? : Option String} {e : Engine F σ κ}
  {past : List (Operation F)} {k : F.Key} {schema : TableSchema (F.Rec k)}
  {assignments : List (String × Value)} {fields : List (FieldDescriptor (F.Rec k))}

/-- An update is issued where all collected clauses render and every key finds a field. -/
theorem requests_of_update (hint? : Option String) (he : e.registry.Sound)
    (hd : TableSchema.derive (F.model k) = .ok schema)
    (hall : Clause.AllRender d (collected past)) (hne : assignments ≠ [])
    (hf : List.Forall₂ (fun a f => schema.field? a.1 = some f) assignments fields) :
    requests [update k assignments] (runAll past (.fresh d hint?) e).2.1
        (runAll past (.fresh d hint?) e).2.2 =
      [assigning d (collected past) schema.name (fields.map (·.column))
        (assignments.map (·.2))] := by
  rw [requests_after_run he, requests_of_statement (statement_of_update hd hall hne hf)]
  rfl

/-- An update is issued only there. -/
theorem issued_of_mem_requests (he : e.registry.Sound)
    (hd : TableSchema.derive (F.model k) = .ok schema) {r : Request}
    (hr : r ∈ requests [update k assignments] (runAll past (.fresh d hint?) e).2.1
      (runAll past (.fresh d hint?) e).2.2) :
    Clause.AllRender d (collected past) ∧ assignments ≠ [] ∧
      ∀ a ∈ assignments, ∃ f, schema.field? a.1 = some f := by
  obtain ⟨st, hst, -⟩ := mem_requests_runAll he hr
  obtain ⟨-, -, -, -, -, -, hall, -⟩ := statement_of_collected rfl hst
  have hissued : ¬ (assignments = [] ∨ ∃ a ∈ assignments, schema.field? a.1 = none) :=
    fun hbad => no_statement_of_update hd hbad st hst
  obtain ⟨hne, hmissing⟩ := not_or.1 hissued
  refine ⟨hall, hne, fun a ha => Option.ne_none_iff_exists'.1 fun hnone => ?_⟩
  exact hmissing ⟨a, ha, hnone⟩

end Update

/-- A field is found under its name, and under its column unless that is the name of another field,
which is then found instead. So an update whose keys are names and columns of a model assigns to the
columns of the fields that the keys belong to, in order and to no other columns, whenever it is
issued; and it is issued unless a clause collected before it failed to render. -/
theorem update_assigns_where_keys_belong {k : F.Key} {schema : TableSchema (F.Rec k)}
    (hd : TableSchema.derive (F.model k) = .ok schema) (hn : schema.names.Nodup) :
    (∀ f ∈ schema.fields, schema.field? f.name = some f ∧
      (schema.field? f.column = some f ↔ ∀ g ∈ schema.fields, g.name = f.column → g = f) ∧
      ∀ g ∈ schema.fields, g.name = f.column → schema.field? f.column = some g) ∧
    ∀ {σ κ : Type} [Cursor κ] (d : Dialect) (hint? : Option String) (e : Engine F σ κ)
      (past : List (Operation F)) (assignments : List (String × Value)),
      e.registry.Sound → assignments ≠ [] →
      (∀ a ∈ assignments, a.1 ∈ schema.names ∨ a.1 ∈ schema.columns) →
      let (_, s, e) := runAll past (.fresh d hint?) e
      ∃ fields, List.Forall₂ (fun a f => schema.Belongs a.1 f) assignments fields ∧
        let request := assigning d (collected past) schema.name (fields.map (·.column))
          (assignments.map (·.2))
        (∀ r ∈ requests [update k assignments] s e, r = request) ∧
        (Clause.AllRender d (collected past) →
          requests [update k assignments] s e = [request]) := by
  have hc := (TableSchema.wellFormed_of_derive hd).distinct
  refine ⟨fun f hf => ⟨TableSchema.field?_name hn hc hf, TableSchema.field?_column_iff hn hc hf,
    fun g hg hname => hname ▸ TableSchema.field?_name hn hc hg⟩, ?_⟩
  intro σ κ _ d hint? e past assignments he hne hkeys
  obtain ⟨fields, hfields⟩ := exists_forall₂ fun a ha => TableSchema.exists_belongs (hkeys a ha)
  have hfound : List.Forall₂ (fun a f => schema.field? a.1 = some f) assignments fields :=
    hfields.imp fun _ _ h => (TableSchema.field?_eq_some_iff hn hc).2 h
  have hissued (hall : Clause.AllRender d (collected past)) :=
    requests_of_update hint? he hd hall hne hfound
  refine ⟨fields, hfields, fun r hr => ?_, hissued⟩
  obtain ⟨hall, -, -⟩ := issued_of_mem_requests he hd hr
  rw [hissued hall] at hr
  exact List.mem_singleton.1 hr

/-- A key that is the name of one field and the column of another belongs to the field that it
names. -/
theorem update_assigns_where_keys_belong_swapped :
    let schema := Declaration.swapped.model.layout
    let e : Engine Declaration.swappedFamily Script ScriptedCursor :=
      { executor := Script.executor, dialect := .sqlite, state := ⟨[], []⟩ }
    let (_, s, e) := runAll [.filter "own > ?" [.ofInt 1]] (.fresh .sqlite none) e
    TableSchema.derive Declaration.swapped.model = .ok schema ∧ schema.names.Nodup ∧
    (∀ f ∈ schema.fields, schema.field? f.name = some f) ∧
    requests [.update () [("right", .ofInt 3), ("own", .ofInt 4)]] s e =
      [.exec ⟨"UPDATE \"swap\" SET \"left\" = ?, \"own\" = ? WHERE own > ?",
        [.ofInt 3, .ofInt 4, .ofInt 1]⟩] := by
  intro schema e
  have hd : TableSchema.derive Declaration.swapped.model = .ok schema := rfl
  have hn : schema.names.Nodup := by decide
  have hc := (TableSchema.wellFormed_of_derive hd).distinct
  obtain ⟨hfields, hupdate⟩ :=
    update_assigns_where_keys_belong (F := Declaration.swappedFamily) (k := ()) hd hn
  refine ⟨hd, hn, fun f hf => (hfields f hf).1, ?_⟩
  obtain ⟨fields, hbelongs, -, hissued⟩ := hupdate .sqlite none e [.filter "own > ?" [.ofInt 1]]
    [("right", .ofInt 3), ("own", .ofInt 4)] Registry.sound_empty (List.cons_ne_nil _ _) (by decide)
  have hcolumns : fields.map (·.column) = ["left", "own"] :=
    List.map_injective_iff.2 (Option.some_injective _) <| Session.columns_of_found <|
      hbelongs.imp fun _ _ h => (TableSchema.field?_eq_some_iff hn hc).2 h
  rw [hcolumns] at hissued
  exact (hissued (List.forall_mem_singleton.2 ⟨_, rfl⟩)).trans (by decide)

/-- A column that is also the name of another field does not find its own field, and a value that is
assigned under it goes to another column. -/
theorem column_finds_other_field :
    let schema := Declaration.swapped.model.layout
    let e : Engine Declaration.swappedFamily Script ScriptedCursor :=
      { executor := Script.executor, dialect := .sqlite, state := ⟨[], []⟩ }
    TableSchema.derive Declaration.swapped.model = .ok schema ∧ schema.names.Nodup ∧
    (∃ f ∈ schema.fields, schema.field? f.column ≠ some f) ∧
    "right" ∈ schema.columns ∧
    requests [.update () [("right", .ofInt 3)]] (.fresh .sqlite none) e =
      [.exec ⟨"UPDATE \"swap\" SET \"left\" = ?", [.ofInt 3]⟩] := by
  intro schema e
  let f := Fields.descriptor Declaration.swapped.fields ⟨0, by decide⟩ (some "right")
  refine ⟨rfl, by decide, ⟨f, List.mem_cons_self, fun h => ?_⟩, by decide, by decide⟩
  have hname : (schema.field? f.column).map (·.name) = some f.name := by rw [h]; rfl
  exact absurd hname (by decide)

/-- An update whose keys are pairwise different assigns to columns of the model, one for each
assignment. The columns are pairwise different as well, unless the keys give both the name and the
column of a field and the column is not the name of another field; then one value would replace the
other. -/
theorem assigns_columns_once_iff {σ κ : Type} [Cursor κ] (d : Dialect) (hint? : Option String)
    {e : Engine F σ κ} (he : e.registry.Sound) (past : List (Operation F)) {k : F.Key}
    {schema : TableSchema (F.Rec k)} (hd : TableSchema.derive (F.model k) = .ok schema)
    (hn : schema.names.Nodup) {assignments : List (String × Value)}
    (hkeys : (assignments.map (·.1)).Nodup) :
    let (_, s, e) := runAll past (.fresh d hint?) e
    let keys := assignments.map (·.1)
    ∀ r ∈ requests [update k assignments] s e, ∃ columns,
      r = assigning d (collected past) schema.name columns (assignments.map (·.2)) ∧
      List.Forall₂ (fun a c => ∃ f, schema.Belongs a.1 f ∧ f.column = c) assignments columns ∧
      (∀ c ∈ columns, c ∈ schema.columns) ∧
      (columns.Nodup ↔ ∀ f ∈ schema.fields,
        f.name ∈ keys → f.column ∈ keys → f.column ∈ schema.names) := by
  intro r hr
  have hc := (TableSchema.wellFormed_of_derive hd).distinct
  obtain ⟨hall, hne, hkeyed⟩ := issued_of_mem_requests he hd hr
  obtain ⟨fields, hfound⟩ := exists_forall₂ hkeyed
  rw [requests_of_update hint? he hd hall hne hfound, List.mem_singleton] at hr
  refine ⟨_, hr, ?_, fun c hcolumn => ?_, ?_⟩
  · rw [List.forall₂_map_right_iff]
    exact hfound.imp fun _ f h => ⟨f, (TableSchema.field?_eq_some_iff hn hc).1 h, rfl⟩
  · obtain ⟨f, hf, rfl⟩ := List.mem_map.1 hcolumn
    exact TableSchema.mem_columns (Session.mem_fields_of_assigned hfound f hf)
  · exact TableSchema.nodup_found_iff hn hc (Session.columns_of_found hfound) hkeys

/-- Keys that are each the name of one field and the column of another. -/
theorem assigns_columns_once_iff_swapped :
    let schema := Declaration.swapped.model.layout
    let e : Engine Declaration.swappedFamily Script ScriptedCursor :=
      { executor := Script.executor, dialect := .sqlite, state := ⟨[], []⟩ }
    let assignments := [("right", .ofInt 3), ("left", .ofInt 4), ("own", .null)]
    TableSchema.derive Declaration.swapped.model = .ok schema ∧ schema.names.Nodup ∧
    (assignments.map (·.1)).Nodup ∧
    ∃ r columns, requests [.update () assignments] (.fresh .sqlite none) e = [r] ∧
      r = assigning .sqlite [] "swap" columns [.ofInt 3, .ofInt 4, .null] ∧ columns.Nodup := by
  intro schema e assignments
  have hd : TableSchema.derive Declaration.swapped.model = .ok schema := rfl
  have hn : schema.names.Nodup := by decide
  have hkeys : (assignments.map (·.1)).Nodup := by decide
  let r : Request := .exec ⟨"UPDATE \"swap\" SET \"left\" = ?, \"right\" = ?, \"own\" = ?",
    [.ofInt 3, .ofInt 4, .null]⟩
  have hr : requests [.update () assignments] (.fresh .sqlite none) e = [r] := by decide
  obtain ⟨columns, hassigning, -, -, hiff⟩ := assigns_columns_once_iff .sqlite none (e := e)
    Registry.sound_empty [] (k := ()) hd hn hkeys r (hr ▸ List.mem_singleton_self r)
  refine ⟨hd, hn, hkeys, r, columns, hr, hassigning, hiff.2 ?_⟩
  decide

/-- Two different keys of which both values go to one column. -/
theorem assigns_column_twice :
    let schema := Declaration.users.model.layout
    let e : Engine Declaration.userFamily Script ScriptedCursor :=
      { executor := Script.executor, dialect := .sqlite, state := ⟨[], []⟩ }
    let assignments := [("name", .text "Ann"), ("full_name", .text "Bo")]
    let columns := ["full_name", "full_name"]
    TableSchema.derive Declaration.users.model = .ok schema ∧ schema.names.Nodup ∧
    (assignments.map (·.1)).Nodup ∧ ¬ columns.Nodup ∧
    requests [.update () assignments] (.fresh .sqlite none) e =
      [assigning .sqlite [] "users" columns [.text "Ann", .text "Bo"]] ∧
    requests [.update () assignments] (.fresh .sqlite none) e =
      [.exec ⟨"UPDATE \"users\" SET \"full_name\" = ?, \"full_name\" = ?",
        [.text "Ann", .text "Bo"]⟩] := by
  intro schema e assignments columns
  exact ⟨rfl, by decide, by decide, by decide, by decide, by decide⟩

end Operation

end RecordMapper
