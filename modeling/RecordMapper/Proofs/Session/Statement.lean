import RecordMapper.Proofs.Clause.Fragment
import RecordMapper.Proofs.Schema.Table
import RecordMapper.Proofs.Session.Requests

/-!
# The statement of collected clauses

What the statement of an operation consists of, in terms of the clauses collected before it. An
operation other than an insert adds one clause of its own; its statement is the fragment of that
clause, followed by the last collected fragment of each kind that has a place in it. An insert
consists of its INSERT clause and its tuples alone. A statement is put together only if every
collected clause renders.
-/

namespace RecordMapper

variable {F : Family}

namespace Session

/-- A statement that was put together was put together from the clauses taken, the derived schema
and the operation's own clause. -/
theorem statement_ok {k : F.Key} {own : TableSchema (F.Rec k) → Except Error Clause}
    {shape : List Clause.Kind} {s : Session} {st : Statement}
    (h : s.statement k own shape = .ok st) :
    ∃ clauses schema c, s.taken = .ok clauses ∧ TableSchema.derive (F.model k) = .ok schema ∧
      own schema = .ok c ∧ assemble clauses c shape = .ok st := by
  obtain ⟨clauses, ht, h⟩ := ok_of_bind h
  obtain ⟨schema, hd, h⟩ := ok_of_bind h
  obtain ⟨c, hc, h⟩ := ok_of_bind h
  exact ⟨clauses, schema, c, ht, hd, hc, h⟩

theorem taken_of_pending {s : Session} {err : Error} (h : s.pending = some err) :
    s.taken = .error err := by
  simp [taken, h]

/-- The clauses of a session can be taken only if all that were staged render. -/
theorem taken_stageAll {d : Dialect} {hint? : Option String} {cs : List Clause}
    {clauses : ClauseSet} (h : ((fresh d hint?).stageAll cs).taken = .ok clauses) :
    Clause.AllRender d cs ∧ clauses = ⟨d, fun k => Clause.lastFragment? d k cs⟩ := by
  rcases Clause.allRender_or_first_failure d cs with hcs | ⟨ahead, c, behind, err, rfl, ha, hc⟩
  · rw [stageAll_fresh_of_ok hcs] at h
    exact ⟨hcs, (Except.ok.inj h).symm⟩
  · rw [stageAll_fresh_of_error ha hc] at h
    cases h

theorem taken_of_allRender {d : Dialect} {cs : List Clause} (h : Clause.AllRender d cs)
    (hint? : Option String) :
    ((fresh d hint?).stageAll cs).taken = .ok ⟨d, fun k => Clause.lastFragment? d k cs⟩ := by
  rw [stageAll_fresh_of_ok h]
  rfl

/-- Assignments are resolved to the columns of the fields that they name. -/
theorem names_of_resolve {R : Type} {schema : TableSchema R} {as rs : List (String × Value)}
    (h : resolve schema as = .ok rs) :
    rs.map (fun r => some r.1) =
      (as.map (·.1)).map fun name => (schema.field? name).map (·.column) := by
  induction as generalizing rs with
  | nil =>
    cases h
    rfl
  | cons a as ih =>
    rw [resolve] at h
    cases hf : schema.field? a.1 with
    | none =>
      rw [hf] at h
      cases h
    | some f =>
      rw [hf] at h
      cases hr : resolve schema as with
      | error err =>
        rw [hr] at h
        cases h
      | ok rest =>
        rw [hr] at h
        cases h
        rw [List.map_cons, List.map_cons, List.map_cons, hf, ih hr]
        rfl

section Insert

variable {k : F.Key} {records : List (F.Rec k)} {s : Session} {clauses : ClauseSet}

theorem insertStatement_nil (ht : s.taken = .ok clauses) :
    s.insertStatement k [] = .error (.clause (.render .values .noRows)) := by
  rw [insertStatement, ht]
  rfl

theorem insertStatement_of_invalid (ht : s.taken = .ok clauses) (hn : records ≠ []) {err : Error}
    (hd : TableSchema.derive (F.model k) = .error err) :
    s.insertStatement k records = .error err := by
  rw [insertStatement, ht]
  simp only [Except.bind, insertContent, if_neg hn, hd]

/-- The rows of records that can be written make up a VALUES clause. -/
theorem render_rows {schema : TableSchema (F.Rec k)}
    (hd : TableSchema.derive (F.model k) = .ok schema) (hn : records ≠ [])
    {rows : List (List Value)} (hm : records.mapM schema.recordValues = .ok rows) (d : Dialect) :
    (Clause.values rows).render d =
      .ok ⟨"VALUES " ++ Clause.commas (List.replicate records.length
        (Clause.tuple schema.columns.length)), rows.flatten⟩ := by
  obtain ⟨hlen, hwidths⟩ := TableSchema.lengths_of_mapM_recordValues hm
  have hrows : rows ≠ [] := by
    rintro rfl
    exact hn (List.length_eq_zero_iff.1 hlen.symm)
  have hwidth := (TableSchema.wellFormed_of_derive hd).width_ne_zero
  rw [Clause.render_values hrows hwidth hwidths, hlen]

/-- The statement that inserts records of a model that has a schema fails only with a record that
cannot be written. None of the collected clauses has a place in it. -/
theorem insertStatement_of_taken (ht : s.taken = .ok clauses) (hn : records ≠ [])
    {schema : TableSchema (F.Rec k)} (hd : TableSchema.derive (F.model k) = .ok schema) :
    s.insertStatement k records = (records.mapM schema.recordValues).map fun rows =>
      ⟨Clause.insertText clauses.dialect schema.name schema.columns records.length,
        rows.flatten⟩ := by
  have hs := TableSchema.wellFormed_of_derive hd
  have hi := Clause.render_insert (d := clauses.dialect) hs.name hs.columns_ne_nil hs.columns
  have hset := ClauseSet.set_of_ok hi
  simp only [insertStatement, ht, insertContent, hn, if_false, hd, Except.bind, hset]
  cases hm : records.mapM schema.recordValues with
  | error err => rfl
  | ok rows =>
    have ha (f : Fragment) :
        assemble (clauses.put .insert (some f)) (.values rows) insertShape = _ :=
      assemble_of_ok (render_rows hd hn hm _) rfl (by simp [insertShape, Clause.kind])
    have hfrags (f g : Fragment) : insertShape.filterMap
        ((clauses.put .insert (some f)).put .values (some g)).get? = [f, g] := rfl
    simp only [Except.map, Clause.kind, ha, hfrags, Clause.ofFragments_insert]

/-- Collected clauses that render do not change the statement of an insert. -/
theorem insertStatement_stageAll {d : Dialect} {cs : List Clause} (h : Clause.AllRender d cs)
    (hint? : Option String) (k : F.Key) (records : List (F.Rec k)) :
    ((fresh d hint?).stageAll cs).insertStatement k records =
      (fresh d hint?).insertStatement k records := by
  have ht := taken_of_allRender h hint?
  have hfresh : (fresh d hint?).taken = .ok (.empty d) := rfl
  by_cases hn : records = []
  · subst hn
    rw [insertStatement_nil ht, insertStatement_nil hfresh]
  · cases hd : TableSchema.derive (F.model k) with
    | error err =>
      rw [insertStatement_of_invalid ht hn hd, insertStatement_of_invalid hfresh hn hd]
    | ok schema =>
      rw [insertStatement_of_taken ht hn hd, insertStatement_of_taken hfresh hn hd]
      rfl

end Insert

/-- The statement of an insert consists of the INSERT clause of the derived schema and the tuples of
the records. -/
theorem insertStatement_ok {k : F.Key} {records : List (F.Rec k)} {d : Dialect}
    {hint? : Option String} {cs : List Clause} {st : Statement}
    (h : ((fresh d hint?).stageAll cs).insertStatement k records = .ok st) :
    ∃ schema rows f g, TableSchema.derive (F.model k) = .ok schema ∧
      records.mapM schema.recordValues = .ok rows ∧
      (Clause.insert schema.name schema.columns).render d = .ok f ∧
      (Clause.values rows).render d = .ok g ∧ Clause.AllRender d cs ∧ st = .ofFragments [f, g] := by
  obtain ⟨clauses, ht, -⟩ := ok_of_bind h
  obtain ⟨hall, rfl⟩ := taken_stageAll ht
  by_cases hn : records = []
  · subst hn
    rw [insertStatement_nil ht] at h
    cases h
  · cases hd : TableSchema.derive (F.model k) with
    | error err =>
      rw [insertStatement_of_invalid ht hn hd] at h
      cases h
    | ok schema =>
      rw [insertStatement_of_taken ht hn hd] at h
      cases hm : records.mapM schema.recordValues with
      | error err =>
        rw [hm] at h
        cases h
      | ok rows =>
        rw [hm] at h
        cases h
        have hs := TableSchema.wellFormed_of_derive hd
        exact ⟨schema, rows, _, _, rfl, hm,
          Clause.render_insert hs.name hs.columns_ne_nil hs.columns, render_rows hd hn hm d, hall,
          (Clause.ofFragments_insert _ _).symm⟩

end Session

namespace Operation

/-- An operation on records, which takes the collected clauses. -/
def OnRecords : Operation F → Prop
  | insert .. | find .. | first .. | update .. | delete .. | count .. => True
  | filter .. | order .. | limit .. | reset | execRaw .. | queryRaw .. => False

/-- The clauses that an operation consumes where `cs` were collected before it: finding the first
record adds a limit. -/
def consumed (cs : List Clause) : Operation F → List Clause
  | first _ => cs ++ [.limit Session.single]
  | _ => cs

/-- The record type of an operation on stored records and the clause of its own. -/
def own? : Operation F → Option (Σ k : F.Key, TableSchema (F.Rec k) → Except Error Clause)
  | find k _ | first k => some ⟨k, fun t => .ok (.select t.name t.columns)⟩
  | update k assignments =>
    some ⟨k, fun t => (Session.resolve t assignments).map (.update t.name)⟩
  | delete k => some ⟨k, fun t => .ok (.delete t.name)⟩
  | count k => some ⟨k, fun t => .ok (.count t.name)⟩
  | _ => none

/-- The kinds of collected clauses that have a place in the statement of an operation on stored
records, in the order of the text. -/
def placed : Operation F → List Clause.Kind
  | find .. | first .. => stagedKinds
  | _ => [.filter]

/-- How an operation hands over its statement. -/
def request (st : Statement) : Operation F → Request
  | insert .. | update .. | delete .. | execRaw .. => .exec st
  | _ => .query st

@[simp]
theorem statement_request (o : Operation F) (st : Statement) : (o.request st).statement = st := by
  cases o <;> rfl

/-- An operation requests its statement, and nothing if it has none. -/
theorem mem_requests {o : Operation F} {s : Session} {r : Request}
    (h : r ∈ (o.action s).requests) : ∃ st, o.statement? s = some (.ok st) ∧ r = o.request st := by
  unfold action at h
  split at h
  · cases h
  · cases h
  · next st hst =>
    refine ⟨st, hst, ?_⟩
    cases o <;> first | exact List.mem_singleton.1 h | cases h

/-- An operation requests its statement if it has one. -/
theorem requests_of_statement {o : Operation F} {s : Session} {st : Statement}
    (h : o.statement? s = some (.ok st)) : (o.action s).requests = [o.request st] := by
  rw [action, h]
  cases o <;> first | rfl | cases h

theorem requests_of_no_statement {o : Operation F} {s : Session}
    (h : ∀ st, o.statement? s ≠ some (.ok st)) : (o.action s).requests = [] := by
  refine List.eq_nil_iff_forall_not_mem.2 fun r hr => ?_
  obtain ⟨st, hst, -⟩ := mem_requests hr
  exact h st hst

/-- An operation on stored records puts its statement together from the clauses that it consumes
and its own clause, which stands first. -/
theorem exists_statement_eq {o : Operation F} {k : F.Key}
    {own : TableSchema (F.Rec k) → Except Error Clause} (ho : o.own? = some ⟨k, own⟩) (d : Dialect)
    (hint? : Option String) (cs : List Clause) :
    ∃ kind, o.statement? ((Session.fresh d hint?).stageAll cs) = some
        (((Session.fresh d hint?).stageAll (o.consumed cs)).statement k own (kind :: o.placed)) ∧
      (∀ t c, own t = .ok c → c.kind = kind) ∧
      ClauseSet.repeated? [] (kind :: o.placed) = none := by
  cases o <;> cases ho
  case find => exact ⟨.select, rfl, by rintro t c ⟨⟩; rfl, rfl⟩
  case first =>
    refine ⟨.select, ?_, by rintro t c ⟨⟩; rfl, rfl⟩
    rw [consumed, Session.stageAll_append]
    rfl
  case update assignments =>
    refine ⟨.update, rfl, fun t c hc => ?_, rfl⟩
    dsimp only at hc
    cases hres : Session.resolve t assignments <;> rw [hres] at hc <;> cases hc
    rfl
  case delete => exact ⟨.delete, rfl, by rintro t c ⟨⟩; rfl, rfl⟩
  case count => exact ⟨.count, rfl, by rintro t c ⟨⟩; rfl, rfl⟩

section Collected

variable {o : Operation F} {k : F.Key} {own : TableSchema (F.Rec k) → Except Error Clause}
  {d : Dialect} {hint? : Option String} {cs : List Clause}

/-- The statement of an operation consists of its own fragment and the last fragment of each kind
of collected clause that has a place in it. -/
theorem statement_of_collected (ho : o.own? = some ⟨k, own⟩) {st : Statement}
    (h : o.statement? ((Session.fresh d hint?).stageAll cs) = some (.ok st)) :
    ∃ schema c f, TableSchema.derive (F.model k) = .ok schema ∧ own schema = .ok c ∧
      c.render d = .ok f ∧ Clause.AllRender d (o.consumed cs) ∧
      st = .ofFragments
        (f :: o.placed.filterMap fun k => Clause.lastFragment? d k (o.consumed cs)) := by
  obtain ⟨kind, hs, hkind, hr⟩ := exists_statement_eq ho d hint? cs
  obtain ⟨clauses, schema, c, ht, hd, hc, ha⟩ :=
    Session.statement_ok (Option.some.inj (hs.symm.trans h))
  obtain ⟨hall, rfl⟩ := Session.taken_stageAll ht
  obtain rfl := hkind schema c hc
  cases hf : c.render d with
  | error err =>
    rw [Session.assemble_of_error hf] at ha
    cases ha
  | ok f =>
    rw [Session.assemble_head hf hr] at ha
    exact ⟨schema, c, f, hd, hc, hf, hall, (Except.ok.inj ha).symm⟩

/-- An operation of which the model is valid and all clauses render has such a statement. -/
theorem statement_of_rendered (hint? : Option String) (ho : o.own? = some ⟨k, own⟩)
    {schema : TableSchema (F.Rec k)} (hd : TableSchema.derive (F.model k) = .ok schema)
    {c : Clause} (hc : own schema = .ok c) {f : Fragment} (hf : c.render d = .ok f)
    (hall : Clause.AllRender d (o.consumed cs)) :
    o.statement? ((Session.fresh d hint?).stageAll cs) = some (.ok (.ofFragments
      (f :: o.placed.filterMap fun k => Clause.lastFragment? d k (o.consumed cs)))) := by
  obtain ⟨kind, hs, hkind, hr⟩ := exists_statement_eq ho d hint? cs
  obtain rfl := hkind schema c hc
  have ht := Session.taken_of_allRender hall hint?
  have ha : Session.assemble ⟨d, fun k => Clause.lastFragment? d k (o.consumed cs)⟩ c
      (c.kind :: o.placed) = _ := Session.assemble_head hf hr
  rw [hs, Session.statement, ht]
  simp only [Except.bind, hd, hc, ha]
  rfl

end Collected

end Operation

end RecordMapper
