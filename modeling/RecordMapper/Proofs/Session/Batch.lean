import RecordMapper.Proofs.Session.Protocol
import RecordMapper.Proofs.Session.RoundTrip
import RecordMapper.Proofs.Session.Statement

/-!
# Inserting a batch

Records are inserted by one statement or not at all. The executor hears nothing of records that
cannot be inserted, however many of them could be written; otherwise it is called once, with one
tuple of placeholders for each record and with the values of the records one after another.
-/

namespace RecordMapper

variable {F : Family}

/-- The parameters are the values of the records one after another, and for each record those of
its fields. -/
structure TableSchema.RecordMajor {R : Type} (s : TableSchema R) (records : List R)
    (params : List Value) : Prop where
  length : params.length = records.length * s.fields.length
  value : ∀ {i j r f}, records[i]? = some r → s.fields[j]? = some f →
    ∃ v, f.get r = .ok v ∧ params[i * s.fields.length + j]? = some v

theorem TableSchema.recordMajor_flatten {R : Type} {s : TableSchema R} {records : List R}
    {rows : List (List Value)} (h : records.mapM s.recordValues = .ok rows) :
    s.RecordMajor records rows.flatten := by
  obtain ⟨hlen, hwidth⟩ := lengths_of_mapM_recordValues h
  rw [columns, List.length_map] at hwidth
  refine ⟨?_, fun {i j r f} hr hf => ?_⟩
  · rw [Clause.length_flatten_of_width hwidth, hlen]
  · obtain ⟨row, v, hrow, hv, hget⟩ := getElem?_of_mapM_recordValues h hr hf
    exact ⟨v, hget, Clause.getElem?_flatten_of_width hwidth hrow hv⟩

/-! ## What the executor hears -/

namespace Operation

variable {σ κ : Type} [Cursor κ] {e : Engine F σ κ} {o : Operation F} {s : Session}

/-- The operation fails, and the executor is neither called nor changed. -/
structure Refused (o : Operation F) (s : Session) (e : Engine F σ κ) (err : Error) : Prop where
  answer : (o.run s e).1 = o.failure err
  calls : o.calls s e = []
  state : (o.run s e).2.2.state = e.state

theorem refused_of_no_statement (he : e.registry.Sound) {err : Error}
    (hst : o.statement? s = some (.error err)) : o.Refused s e err := by
  obtain ⟨hcalls, hanswer⟩ := calls_of_no_statement he hst
  obtain ⟨e', hl, hrun⟩ := o.run_eq he s
  have ha : o.action s = .answer (o.failure err) := by rw [action, hst]
  refine ⟨hanswer, hcalls, ?_⟩
  rw [hrun, ha]
  exact hl.state

/-- Inserting records is all or nothing. In a session without a pending error, whatever is staged
in it, no records, an invalid model or a field without a column form keep every record from the
executor, and of the fields without a column form the first is told. Otherwise there is one call,
for all records. -/
theorem insert_all_or_nothing (d : Dialect) (hint? : Option String) (he : e.registry.Sound)
    (past : List (Operation F)) (k : F.Key) (records : List (F.Rec k)) :
    let s := (runAll past (.fresh d hint?) e).2.1
    let e := (runAll past (.fresh d hint?) e).2.2
    let o := insert k records
    s.pending = none →
    (records = [] → o.Refused s e (.clause (.render .values .noRows))) ∧
    (records ≠ [] → ∀ err, TableSchema.derive (F.model k) = .error err →
      (∃ fault, err = .invalidModel (F.model k).typeName fault) ∧ o.Refused s e err) ∧
    (records ≠ [] → ∀ schema, TableSchema.derive (F.model k) = .ok schema →
      ((∃ r ∈ records, ∃ f ∈ schema.fields, ∃ cause, f.get r = .error cause) →
        ∃ column cause, schema.FirstFault records column cause ∧
          o.Refused s e (.bind column cause)) ∧
      ((∀ r ∈ records, ∀ f ∈ schema.fields, ∃ v, f.get r = .ok v) →
        ∃ params, schema.RecordMajor records params ∧
          let sql := Clause.insertText d schema.name schema.columns records.length
          let answer := (e.executor.exec sql params e.state).1
          o.calls s e = [.exec sql params answer] ∧ (o.run s e).1 = .number answer)) := by
  have hsession := runAll_session past d hint? e
  have hsound := (runAll_issues he past (.fresh d hint?)).sound
  dsimp only
  generalize (runAll past (.fresh d hint?) e).2.2 = e₁ at hsound
  generalize (runAll past (.fresh d hint?) e).2.1 = s₁ at hsession
  intro hp
  -- nothing pends, so the clauses can be taken; they are rendered for the dialect of the session
  have ht : s₁.taken = .ok s₁.clauses := by rw [Session.taken, hp]
  have hd : s₁.clauses.dialect = d := by
    have htaken := ht
    rw [hsession] at htaken
    rw [hsession, (Session.taken_stageAll htaken).2]
  refine ⟨?_, fun hn err hderive => ⟨?_, ?_⟩, fun hn schema hderive => ?_⟩
  · rintro rfl
    exact refused_of_no_statement hsound (congrArg some (Session.insertStatement_nil ht))
  · obtain ⟨fault, hfault, -⟩ := TableSchema.fault_of_derive hderive
    exact ⟨fault, hfault⟩
  · exact refused_of_no_statement hsound
      (congrArg some (Session.insertStatement_of_invalid ht hn hderive))
  · have hst := Session.insertStatement_of_taken ht hn hderive
    rw [hd] at hst
    cases hm : records.mapM schema.recordValues with
    | error err =>
      obtain ⟨column, cause, hfirst, rfl⟩ := TableSchema.mapM_recordValues_eq_error_iff.1 hm
      rw [hm] at hst
      refine ⟨fun _ => ⟨column, cause, hfirst, ?_⟩, fun hall => ?_⟩
      · exact refused_of_no_statement hsound (congrArg some hst)
      · obtain ⟨rows, hrows⟩ := TableSchema.exists_mapM_recordValues_iff.2 hall
        cases hm.symm.trans hrows
    | ok rows =>
      rw [hm] at hst
      refine ⟨?_, fun _ => ⟨rows.flatten, TableSchema.recordMajor_flatten hm, ?_⟩⟩
      · rintro ⟨r, hr, f, hf, cause, hget⟩
        obtain ⟨v, hv⟩ := TableSchema.exists_mapM_recordValues_iff.1 ⟨rows, hm⟩ r hr f hf
        cases hget.symm.trans hv
      · have ha : (insert k records).action s₁ = .exec
            ⟨Clause.insertText d schema.name schema.columns records.length, rows.flatten⟩
            .number := by
          rw [action, statement?, hst]
          rfl
        exact calls_of_exec hsound ha

/-- Users are inserted while a condition is staged: none, two of whom the second came at an instant
that has no column form, and twice one user. -/
theorem insert_all_or_nothing_users :
    let e : Engine Declaration.userFamily Script ScriptedCursor :=
      { executor := Script.executor, dialect := .sqlite, state := ⟨[], []⟩ }
    let s := (runAll [.filter "active" []] (.fresh .sqlite none) e).2.1
    let ann := Declaration.ann
    let far : Instant := ⟨10000000000, 0, by decide⟩
    let late : Declaration.users.Rec := ann.set ⟨3, by decide⟩ (some far)
    (insert () []).Refused s e (.clause (.render .values .noRows)) ∧
    (insert () [ann, late]).Refused s e (.bind "seen" (.instantOutOfRange far)) ∧
    ∃ params answer,
      (insert () [ann, ann]).calls s e =
        [.exec ("INSERT INTO \"users\" (\"id\", \"full_name\", \"active\", \"seen\") " ++
          "VALUES (?, ?, ?, ?), (?, ?, ?, ?)") params answer] ∧
      params.length = 8 ∧ params[1 * 4 + 1]? = some (.text "Ann") := by
  intro e s ann far late
  have h := insert_all_or_nothing .sqlite none (e := e) Registry.sound_empty
    [.filter "active" []] ()
  have hd : TableSchema.derive Declaration.users.model = .ok Declaration.users.model.layout := rfl
  have hann : TableSchema.Writable ann Declaration.users.model.layout.fields :=
    TableSchema.exists_fieldValues_iff.1 ⟨[.integer (Bounded.zero _), .text "Ann", .bool true,
      .timestamp Instant.epoch], rfl⟩
  have hlate : [ann, late].mapM Declaration.users.model.layout.recordValues =
      .error (.bind "seen" (.instantOutOfRange far)) := rfl
  refine ⟨(h [] rfl).1 rfl, ?_, ?_⟩
  · have hseen : Fields.descriptor Declaration.users.fields ⟨3, by decide⟩ none ∈
        Declaration.users.model.layout.fields := List.mem_of_getElem? (i := 3) rfl
    obtain ⟨column, cause, hfirst, hrefused⟩ :=
      ((h [ann, late] rfl).2.2 (List.cons_ne_nil _ _) _ hd).1
        ⟨late, List.mem_cons_of_mem _ List.mem_cons_self, _, hseen, .instantOutOfRange far, rfl⟩
    have hother := TableSchema.mapM_recordValues_eq_error_iff.2 ⟨column, cause, hfirst, rfl⟩
    cases hlate.symm.trans hother
    exact hrefused
  · obtain ⟨params, hparams, hcalls, -⟩ := ((h [ann, ann] rfl).2.2 (List.cons_ne_nil _ _) _ hd).2
      (List.forall_mem_cons.2 ⟨hann, List.forall_mem_singleton.2 hann⟩)
    obtain ⟨v, hv, hparam⟩ := hparams.value (i := 1) (j := 1) rfl rfl
    cases hv
    exact ⟨params, _, hcalls, hparams.length, hparam⟩

end Operation

end RecordMapper
