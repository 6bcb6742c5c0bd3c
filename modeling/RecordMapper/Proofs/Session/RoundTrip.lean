import RecordMapper.Proofs.Executor.Keeping
import RecordMapper.Proofs.Schema.Declared
import RecordMapper.Proofs.Session.Protocol
import RecordMapper.Proofs.Session.Statement

/-!
# Inserting and finding records

Records that are inserted into an empty table are found again, in their order and with every mapped
field as it was. The column list of the INSERT, the tuples behind it, the select list and the order
in which fields are filled all follow the fields of the schema, whose columns differ; so every value
comes back to the field that it came from.
-/

namespace RecordMapper

namespace Session

variable {F : Family} {k : F.Key} {schema : TableSchema (F.Rec k)}

/-- The statement that inserts records when nothing else is staged. -/
theorem insertStatement_fresh (hd : TableSchema.derive (F.model k) = .ok schema)
    {records : List (F.Rec k)} (hn : records ≠ []) {rows : List (List Value)}
    (hw : schema.Written records rows) (d : Dialect) (hint? : Option String) :
    (fresh d hint?).insertStatement k records =
      .ok ⟨Clause.insertText d schema.name schema.columns records.length, rows.flatten⟩ := by
  have ht : (fresh d hint?).taken = .ok (.empty d) := rfl
  rw [insertStatement_of_taken ht hn hd, hw.mapM_recordValues]
  rfl

/-- The statement that finds records when nothing is staged. -/
theorem selectStatement_fresh (hd : TableSchema.derive (F.model k) = .ok schema) (d : Dialect)
    (hint? : Option String) :
    (fresh d hint?).selectStatement k =
      .ok ⟨Clause.selectText d schema.name schema.columns, []⟩ := by
  have hs := TableSchema.wellFormed_of_derive hd
  have hr := Clause.render_select (d := d) hs.name hs.columns_ne_nil hs.columns
  have ha : assemble (.empty d) (.select schema.name schema.columns) selectShape = _ :=
    assemble_head hr rfl
  have hnone : [.filter, .order, .limit].filterMap (ClauseSet.empty d).get? = [] := rfl
  simp only [selectStatement, statement, taken, fresh, hd, Except.bind, ha, hnone]
  simp [Statement.ofFragments]

end Session

/-! ## The round trip -/

namespace Operation

open Session

variable {K : Type} {ds : K → Declaration} {k : K} {schema : TableSchema (ds k).Rec}

theorem runAll_pair {F : Family} {σ κ : Type} [Cursor κ] {e e' : Engine F σ κ} {s s' : Session}
    {o o' : Operation F} {a a' : Answer F} (ho : o.run s e = (a, s', e'))
    (ho' : (o'.run s' e').1 = a') : (runAll [o, o'] s e).1 = [a, a'] := by
  simp only [runAll, ho, ho']

/-- An insert that has a statement is answered with what the executor says of it. -/
theorem run_insert {F : Family} {σ κ : Type} [Cursor κ] {e : Engine F σ κ}
    (he : e.registry.Sound) {s : Session} {k : F.Key} {records : List (F.Rec k)} {st : Statement}
    (hst : s.insertStatement k records = .ok st) {answer : Except Error Int}
    (hx : (e.executor.exec st.sql st.params e.state).1 = answer) :
    ∃ e' : Engine F σ κ, (insert k records).run s e = (.number answer, s.reset, e') ∧
      e'.executor = e.executor ∧ e'.state = (e.executor.exec st.sql st.params e.state).2 ∧
      e'.registry.Sound := by
  obtain ⟨e₁, hl, h⟩ := run_eq he (insert k records) s
  have ha : (insert k records).action s = .exec st .number := by
    simp only [action, statement?, hst, issue]
  rw [ha] at h
  refine ⟨_, h.trans (Prod.ext ?_ rfl), hl.executor, ?_, hl.sound⟩
  · change Answer.number (e₁.executor.exec st.sql st.params e₁.state).1 = _
    rw [hl.executor, hl.state, hx]
  · change (e₁.executor.exec st.sql st.params e₁.state).2 = _
    rw [hl.executor, hl.state]

/-- A find that has a statement takes the rows that the executor delivers for it. -/
theorem run_find {F : Family} {σ κ : Type} [Cursor κ] {e : Engine F σ κ} (he : e.registry.Sound)
    {s : Session} {k : F.Key} {dest dest' : List (F.Rec k)} {st : Statement}
    (hst : s.selectStatement k = .ok st) {c : κ} {rows : List (List Value)}
    (hq : (e.executor.query st.sql st.params e.state).1 = .ok c) (hy : Cursor.Yields c rows)
    (ht : Cursor.takeAll (readInto k) 0 rows dest = .ok dest') :
    ((find k dest).run s e).1 = .found k (.ok ()) dest' :=
  answer_of_find he hst hq (Cursor.consume_of_yields hy ht)

/-- The stored row of a record is read back as the record with its mapped fields. -/
theorem readRow_stored (hd : TableSchema.derive (ds k).model = .ok schema)
    (ht : ∀ m ∈ (ds k).mapped, (ds k).fields[m.1].type.scalarType ≠ .single) {r : (ds k).Rec}
    {vs : List Value} (hv : schema.recordValues r = .ok vs) (hn : ∀ v ∈ vs, ¬ v.IsNaN)
    (row : Nat) :
    schema.readRow (ds k).model.initial row (vs.map Value.stored) = .ok ((ds k).reread r) := by
  obtain rfl := Model.layout_of_derive hd
  have hw : (vs.map Value.stored).length = (ds k).model.layout.width := by
    rw [List.length_map]
    exact TableSchema.length_fieldValues hv
  rw [TableSchema.readRow, if_neg fun h => h hw]
  exact Fields.fill_stored ht hv hn row _

/-- Reading the stored rows of some records appends what comes back of them. -/
theorem takeAll_stored [DecidableEq K] (hd : TableSchema.derive (ds k).model = .ok schema)
    (ht : ∀ m ∈ (ds k).mapped, (ds k).fields[m.1].type.scalarType ≠ .single)
    {records : List (ds k).Rec} {rows : List (List Value)} (hw : schema.Written records rows)
    (row : Nat) (dest : List (ds k).Rec) :
    Cursor.takeAll (readInto (F := Declaration.family ds) k) row
        (rows.map (List.map Value.stored)) dest =
      .ok (dest ++ records.map (ds k).reread) := by
  induction hw generalizing row dest with
  | nil => simp [Cursor.takeAll]
  | @cons r vs records rows hr _ ih =>
    have hread := readRow_stored hd ht hr.1 hr.2 (row + 1)
    obtain rfl := Model.layout_of_derive hd
    have htake : readInto (F := Declaration.family ds) k (row + 1) (vs.map Value.stored) dest =
        .ok (dest ++ [(ds k).reread r]) := by
      simp only [readInto]
      exact congrArg (Except.map _) hread
    have hrest := ih (row + 1) (dest ++ [(ds k).reread r])
    rw [List.append_assoc, List.singleton_append, ← List.map_cons] at hrest
    change (readInto (F := Declaration.family ds) k (row + 1)
      (vs.map Value.stored) dest).bind _ = _
    rw [htake]
    exact hrest

section Keeping

variable {σ κ : Type} [DecidableEq K] [Cursor κ] {e : Engine (Declaration.family ds) σ κ}
  {understand : String → Option Understood} {content : σ → String → List KeptRow}
  {records : List (ds k).Rec} {rows : List (List Value)} {d : Dialect}

/-- Inserting keeps the rows of the records behind the others of the table. -/
theorem run_insert_kept (hd : TableSchema.derive (ds k).model = .ok schema)
    (he : e.registry.Sound) (hx : e.executor.Keeps understand content) (hn : records ≠ [])
    (hw : schema.Written records rows)
    (hu : understand (Clause.insertText d schema.name schema.columns records.length) =
      some (.insert schema.name schema.columns records.length)) (hint? : Option String) :
    ∃ n, ∃ e' : Engine (Declaration.family ds) σ κ,
      (insert k records).run (.fresh d hint?) e = (.number (.ok n), .fresh d hint?, e') ∧
      e'.executor = e.executor ∧ e'.registry.Sound ∧
      content e'.state schema.name =
        content e.state schema.name ++ rows.map (KeptRow.ofTuple schema.columns) := by
  have hst := insertStatement_fresh (F := Declaration.family ds) hd hn hw d hint?
  have hbound : ∀ row ∈ rows,
      row.length = schema.columns.length ∧ ∀ v ∈ row, v.Bindable := fun row hrow =>
    ⟨hw.length_row row hrow, Declaration.bindable_of_written hd hw row hrow⟩
  have hlen : records.length = rows.length := hw.length_eq
  rw [hlen] at hu
  obtain ⟨n, hanswer, hcontent⟩ := hx.exec e.state hu hbound
  rw [← hlen] at hanswer hcontent
  obtain ⟨e', hrun, hexec, hstate, hsound⟩ := run_insert he hst hanswer
  exact ⟨n, e', hrun, hexec, hsound, hstate ▸ hcontent⟩

/-- Finding gives back the records whose rows the table holds. -/
theorem run_find_kept (hd : TableSchema.derive (ds k).model = .ok schema)
    (ht : ∀ m ∈ (ds k).mapped, (ds k).fields[m.1].type.scalarType ≠ .single)
    (he : e.registry.Sound) (hx : e.executor.Keeps understand content)
    (hw : schema.Written records rows)
    (hheld : content e.state schema.name = rows.map (KeptRow.ofTuple schema.columns))
    (hu : understand (Clause.selectText d schema.name schema.columns) =
      some (.select schema.name schema.columns)) (hint? : Option String)
    (dest : List (ds k).Rec) :
    ((find k dest).run (.fresh d hint?) e).1 =
      .found k (.ok ()) (dest ++ records.map (ds k).reread) := by
  have hst := selectStatement_fresh (F := Declaration.family ds) hd d hint?
  have hcells : (content e.state schema.name).map (KeptRow.cells schema.columns) =
      rows.map (List.map Value.stored) := by
    rw [hheld, List.map_map]
    exact List.map_congr_left fun row hrow => KeptRow.cells_ofTuple
      (TableSchema.wellFormed_of_derive hd).distinct (hw.length_row row hrow)
  obtain ⟨c, hc, hy⟩ := hx.query e.state hu
  rw [hcells] at hy
  exact run_find he hst hc hy (takeAll_stored hd ht hw 0 dest)

end Keeping

/-- Inserting records into an empty table and then finding them gives the records back, behind what
was in the destination. -/
theorem insert_then_find {K σ κ : Type} [DecidableEq K] [Cursor κ] (ds : K → Declaration) (k : K)
    {schema : TableSchema (ds k).Rec} (hd : TableSchema.derive (ds k).model = .ok schema)
    (ht : ∀ m ∈ (ds k).mapped, (ds k).fields[m.1].type.scalarType ≠ .single)
    {records : List (ds k).Rec} (hrecords : records ≠ [])
    (hv : ∀ r ∈ records, ∃ vs, schema.recordValues r = .ok vs ∧ ∀ v ∈ vs, ¬ v.IsNaN)
    (d : Dialect) (hint? : Option String) (dest : List (ds k).Rec)
    {e : Engine (Declaration.family ds) σ κ} (he : e.registry.Sound)
    {understand : String → Option Understood} {content : σ → String → List KeptRow}
    (hx : e.executor.Keeps understand content) (hempty : content e.state schema.name = [])
    (hinsert : understand (Clause.insertText d schema.name schema.columns records.length) =
      some (.insert schema.name schema.columns records.length))
    (hselect : understand (Clause.selectText d schema.name schema.columns) =
      some (.select schema.name schema.columns)) :
    ∃ n, (runAll [.insert k records, .find k dest] (.fresh d hint?) e).1 =
      [.number (.ok n), .found k (.ok ()) (dest ++ records.map (ds k).reread)] := by
  obtain ⟨rows, hw⟩ := TableSchema.exists_written hv
  obtain ⟨n, e', hrun, hexec, hsound, hcontent⟩ :=
    run_insert_kept hd he hx hrecords hw hinsert hint?
  rw [hempty, List.nil_append] at hcontent
  have hfind := run_find_kept hd ht hsound (hexec ▸ hx) hw hcontent hselect hint? dest
  exact ⟨n, runAll_pair hrun hfind⟩

/-- Two users that are written to a store in memory and found behind another one. The store
understands one text of an INSERT and one of a SELECT. -/
theorem insert_then_find_users :
    let insertion := "INSERT INTO `users` (`id`, `full_name`, `active`, `seen`) " ++
      "VALUES (?, ?, ?, ?), (?, ?, ?, ?)"
    let selection := "SELECT `id`, `full_name`, `active`, `seen` FROM `users`"
    let columns := ["id", "full_name", "active", "seen"]
    let understand (sql : String) : Option Understood :=
      if sql = insertion then some (.insert "users" columns 2)
      else if sql = selection then some (.select "users" columns)
      else none
    let e : Engine Declaration.userFamily (String → List KeptRow) BufferedCursor :=
      { executor := .keeping understand, dialect := .mysql, state := fun _ => [] }
    let new : Declaration.users.Rec := Fields.initial _
    ∃ n, (runAll [.insert () [Declaration.ann, new], .find () [Declaration.ann]]
        (.fresh .mysql none) e).1 =
      [.number (.ok n), .found () (.ok ())
        ([Declaration.ann] ++ [Declaration.ann, new].map Declaration.users.reread)] := by
  intro insertion selection columns understand e new
  have hinsertion : Clause.insertText .mysql "users" columns 2 = insertion := by decide
  have hselection : Clause.selectText .mysql "users" columns = selection := by decide
  have hinsert : understand (Clause.insertText .mysql "users" columns 2) =
      some (.insert "users" columns 2) := by
    rw [hinsertion]
    exact if_pos rfl
  have hselect : understand (Clause.selectText .mysql "users" columns) =
      some (.select "users" columns) := by
    rw [hselection]
    exact (if_neg (by decide)).trans (if_pos rfl)
  have hd : TableSchema.derive Declaration.users.model = .ok Declaration.users.model.layout := rfl
  have hann : Declaration.users.model.layout.recordValues Declaration.ann =
      .ok [.integer (Bounded.zero _), .text "Ann", .bool true, .timestamp Instant.epoch] := rfl
  have hnew : Declaration.users.model.layout.recordValues new =
      .ok [.integer (Bounded.zero _), .text "", .bool false, .null] := rfl
  have hv : ∀ r ∈ [Declaration.ann, new], ∃ vs,
      Declaration.users.model.layout.recordValues r = .ok vs ∧ ∀ v ∈ vs, ¬ v.IsNaN := by
    refine List.forall_mem_cons.2 ⟨⟨_, hann, ?_⟩, List.forall_mem_singleton.2 ⟨_, hnew, ?_⟩⟩
    · simp [Value.IsNaN]
    · simp [Value.IsNaN]
  exact insert_then_find (fun _ : Unit => Declaration.users) () hd (by decide)
    (List.cons_ne_nil _ _) hv .mysql none [Declaration.ann] (e := e) Registry.sound_empty
    (Executor.keeping_keeps understand) rfl hinsert hselect

end Operation

end RecordMapper
