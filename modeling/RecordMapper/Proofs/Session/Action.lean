import RecordMapper.Proofs.Schema.Registry
import RecordMapper.Proofs.Session.Staging

/-!
# Operations as actions

The statement of an operation depends on the collected clauses and on its model alone: neither the
executor nor the history of the engine has a say in it. `Operation.statement?` gives that statement,
`Operation.issue` says what is done with it, and together they make the `Action` of the operation,
of which there are only three forms. `Operation.run_eq` shows that running an operation on an engine
with a sound registry is carrying out its action, after schemas were looked up. What is proved of
all actions, such as which requests they record, then holds of all operations.
-/

namespace RecordMapper

variable {F : Family} {σ κ : Type}

/-- What an operation comes down to when its clauses and its schema are known. -/
inductive Action (F : Family) : Type 1 where
  /-- It answers at once. -/
  | answer (a : Answer F)
  /-- It runs a statement for the number of affected rows. -/
  | exec (st : Statement) (reply : Except Error Int → Answer F)
  /-- It runs a query and folds the rows into a result. -/
  | query {α : Type} (st : Statement) (take : Nat → List Value → α → Except Error α) (initial : α)
      (reply : Except Error Unit → α → Answer F)

/-- Carries out an action. -/
def Action.run [Cursor κ] (label : String) (e : Engine F σ κ) : Action F → Answer F × Engine F σ κ
  | .answer a => (a, e)
  | .exec st reply =>
    let (r, e) := e.exec label st.sql st.params
    (reply r, e)
  | .query st take initial reply =>
    let ((outcome, e), x) := e.fold label st.sql st.params take initial
    (reply outcome x, e)

namespace Session

/-- The rows of an INSERT, with the INSERT clause added to the clauses. -/
def insertContent (k : F.Key) (records : List (F.Rec k)) (clauses : ClauseSet) :
    Except Error (ClauseSet × List (List Value)) :=
  if records = [] then .ok (clauses, [])
  else
    (TableSchema.derive (F.model k)).bind fun schema =>
      match clauses.set (.insert schema.name schema.columns) with
      | (.error err, _) => .error err
      | (.ok _, clauses) => (records.mapM schema.recordValues).map (clauses, ·)

/-- The statement that inserts records. -/
def insertStatement (k : F.Key) (records : List (F.Rec k)) (s : Session) :
    Except Error Statement :=
  s.taken.bind fun clauses =>
    (insertContent k records clauses).bind fun r => assemble r.1 (.values r.2) insertShape

/-- The statement of an operation that adds one clause of its own to the collected ones. -/
def statement (k : F.Key) (own : TableSchema (F.Rec k) → Except Error Clause)
    (shape : List Clause.Kind) (s : Session) : Except Error Statement :=
  s.taken.bind fun clauses =>
    (TableSchema.derive (F.model k)).bind fun schema =>
      (own schema).bind fun c => assemble clauses c shape

/-- The statement that finds records. -/
def selectStatement (k : F.Key) (s : Session) : Except Error Statement :=
  s.statement k (fun t => .ok (.select t.name t.columns)) selectShape

/-- Reads a row into a record and appends it to the records read before. -/
def readInto (k : F.Key) (row : Nat) (values : List Value) (records : List (F.Rec k)) :
    Except Error (List (F.Rec k)) :=
  ((F.model k).layout.readRow (F.model k).initial row values).map fun r => records ++ [r]

/-- Appends a row to the rows read before. -/
def collectRow (_ : Nat) (values : List Value) (rows : List (List Value)) :
    Except Error (List (List Value)) :=
  .ok (rows ++ [values])

end Session

namespace Operation

open Session

/-- The statement of an operation, or the error that keeps it from having one. -/
def statement? (s : Session) : Operation F → Option (Except Error Statement)
  | filter .. | order .. | limit .. | reset => none
  | insert k records => some (s.insertStatement k records)
  | find k _ => some (s.selectStatement k)
  | first k => some ((s.limit single).selectStatement k)
  | update k assignments =>
    some (s.statement k (fun t => (resolve t assignments).map (.update t.name)) updateShape)
  | delete k => some (s.statement k (fun t => .ok (.delete t.name)) deleteShape)
  | count k => some (s.statement k (fun t => .ok (.count t.name)) countShape)
  | execRaw sql params | queryRaw sql params => some (.ok ⟨sql, params⟩)

/-- The answer of an operation that fails before it reaches the executor. -/
def failure (err : Error) : Operation F → Answer F
  | filter .. | order .. | limit .. | reset => .staged
  | insert .. | update .. | delete .. | count .. | execRaw .. => .number (.error err)
  | find k dest => .found k (.error err) dest
  | first k => .first k (.error err)
  | queryRaw .. => .rows (.error err)

/-- What an operation does with its statement. -/
def issue (st : Statement) : Operation F → Action F
  | filter .. | order .. | limit .. | reset => .answer .staged
  | insert .. | update .. | delete .. | execRaw .. => .exec st .number
  | find k dest => .query st (readInto k) dest (.found k)
  | first k =>
    .query st (readInto k) [] fun outcome found => .first k (outcome.map fun _ => found.head?)
  | count _ =>
    .query st collectRow [] fun outcome rows => .number (outcome.bind fun _ => countOfRows rows)
  | queryRaw .. => .query st collectRow [] fun outcome rows => .rows (outcome.map fun _ => rows)

/-- What an operation comes down to in a session. -/
def action (s : Session) (o : Operation F) : Action F :=
  match o.statement? s with
  | none => .answer .staged
  | some (.error err) => .answer (o.failure err)
  | some (.ok st) => o.issue st

end Operation

/-! ## Engines that only learn schemas -/

/-- The engine `e'` is `e` after some schemas were looked up: only its registry and its log have
grown. -/
structure Engine.Learns (e e' : Engine F σ κ) : Prop where
  executor : e'.executor = e.executor
  state : e'.state = e.state
  dialect : e'.dialect = e.dialect
  sound : e'.registry.Sound
  events : ∃ ls : List LogEntry, (∀ l ∈ ls, ∃ table columns, l = .registered table columns) ∧
    e'.events = e.events ++ ls.map .logged

theorem Engine.Learns.refl {e : Engine F σ κ} (he : e.registry.Sound) : e.Learns e :=
  ⟨rfl, rfl, rfl, he, [], by simp, by simp⟩

theorem Engine.Learns.trans {e₁ e₂ e₃ : Engine F σ κ} (h : e₁.Learns e₂) (h' : e₂.Learns e₃) :
    e₁.Learns e₃ := by
  obtain ⟨ls, hls, hev⟩ := h.events
  obtain ⟨ls', hls', hev'⟩ := h'.events
  refine ⟨h'.executor.trans h.executor, h'.state.trans h.state, h'.dialect.trans h.dialect,
    h'.sound, ls ++ ls', ?_, ?_⟩
  · intro l hl
    exact (List.mem_append.1 hl).elim (hls l) (hls' l)
  · rw [hev', hev, List.map_append, List.append_assoc]

/-- Looking up a schema gives the derived one. -/
theorem Engine.schema_eq {e : Engine F σ κ} (he : e.registry.Sound) (k : F.Key) :
    ∃ e', e.Learns e' ∧ e.schema k = (TableSchema.derive (F.model k), e') := by
  obtain ⟨hd, hs⟩ := he.model k
  unfold Engine.schema
  cases hm : e.registry.model k with
  | mk answer r =>
    rw [hm] at hd hs
    cases answer with
    | error err =>
      exact ⟨{ e with registry := r }, ⟨rfl, rfl, rfl, hs, [], by simp, by simp⟩, by rw [← hd]; rfl⟩
    | ok o =>
      refine ⟨{ e with registry := r }.record (o.log.map .logged),
        ⟨rfl, rfl, rfl, hs, o.log, ?_, rfl⟩, by rw [← hd]; rfl⟩
      intro l hl
      unfold Registry.Obtained.log at hl
      split at hl
      · exact ⟨_, _, List.mem_singleton.1 hl⟩
      · cases hl

/-! ## Running an operation -/

namespace Attempt

variable {S α β γ : Type}

theorem andThen_bind (x : Except Error α) (g : α → Except Error β) (t : S)
    (f : β → S → Attempt S γ) :
    andThen (x.bind g, t) f = andThen (x, t) fun a t => andThen (g a, t) f := by
  cases x <;> rfl

theorem andThen_map (x : Except Error α) (g : α → β) (t : S) (f : β → S → Attempt S γ) :
    andThen (x.map g, t) f = andThen (x, t) fun a => f (g a) := by
  cases x <;> rfl

end Attempt

section Running

variable {e : Engine F σ κ}

namespace Session

/-- An operation that looks up its schema after taking the clauses goes on with the derived one. -/
theorem withTaken_schema (he : e.registry.Sound) (k : F.Key) (s : Session) {α : Type}
    (f : ClauseSet → TableSchema (F.Rec k) → Engine F σ κ → Attempt (Engine F σ κ) α) :
    ∃ e', e.Learns e' ∧
      s.withTaken e (fun clauses e => (e.schema k).andThen (f clauses)) =
        Attempt.andThen (s.taken, e') fun clauses e' =>
          Attempt.andThen (TableSchema.derive (F.model k), e') (f clauses) := by
  unfold withTaken
  cases s.taken with
  | error err => exact ⟨e, .refl he, rfl⟩
  | ok clauses =>
    obtain ⟨e', hl, hs⟩ := Engine.schema_eq he k
    exact ⟨e', hl, by simp only [Attempt.andThen_ok, hs]⟩

/-- Where the INSERT clause is set already, only the rows are left to be read. -/
theorem insertContent_put {k : F.Key} {schema : TableSchema (F.Rec k)}
    (hd : TableSchema.derive (F.model k) = .ok schema) {clauses : ClauseSet} {f : Fragment}
    (hr : (Clause.insert schema.name schema.columns).render clauses.dialect = .ok f)
    (records : List (F.Rec k)) :
    insertContent k records (clauses.put .insert (some f)) =
      (records.mapM schema.recordValues).map (clauses.put .insert (some f), ·) := by
  unfold insertContent
  split
  · next h => subst h; rfl
  · rw [hd]
    simp only [Except.bind]
    rw [ClauseSet.set_of_ok (by rw [ClauseSet.dialect_put]; exact hr)]
    simp only [Clause.kind, ClauseSet.put_put]

/-- The rows of an INSERT come from one schema, although it is looked up with every record. -/
theorem insertRows_eq (k : F.Key) (records : List (F.Rec k)) (clauses : ClauseSet)
    (he : e.registry.Sound) :
    ∃ e', e.Learns e' ∧
      insertRows k records clauses e = (insertContent k records clauses, e') := by
  induction records generalizing clauses e with
  | nil => exact ⟨e, .refl he, by simp [insertRows, insertContent]⟩
  | cons record records ih =>
    obtain ⟨e₁, hl₁, hs⟩ := Engine.schema_eq he k
    simp only [insertRows, insertContent, hs, List.cons_ne_nil, ↓reduceIte]
    cases hd : TableSchema.derive (F.model k) with
    | error err => exact ⟨e₁, hl₁, rfl⟩
    | ok schema =>
      simp only [Attempt.andThen_ok, Except.bind]
      cases hr : (Clause.insert schema.name schema.columns).render clauses.dialect with
      | error err =>
        rw [ClauseSet.set_of_error hr]
        exact ⟨e₁, hl₁, rfl⟩
      | ok f =>
        rw [ClauseSet.set_of_ok hr]
        simp only [List.mapM_cons]
        cases schema.recordValues record with
        | error err => exact ⟨e₁, hl₁, rfl⟩
        | ok values =>
          obtain ⟨e₂, hl₂, hi⟩ := ih (clauses.put .insert (some f)) hl₁.sound
          refine ⟨e₂, hl₁.trans hl₂, ?_⟩
          simp only [Clause.kind, hi, insertContent_put hd hr]
          cases records.mapM schema.recordValues <;> rfl

theorem insert_eq (he : e.registry.Sound) (k : F.Key) (records : List (F.Rec k)) (s : Session) :
    ∃ e', e.Learns e' ∧
      s.insert k records e =
        let r := Attempt.andThen (s.insertStatement k records, e') fun st e =>
          e.exec s.label st.sql st.params
        (r.1, s.reset, r.2) := by
  simp only [insert, withTaken, insertStatement, Attempt.andThen_bind]
  cases s.taken with
  | error err => exact ⟨e, .refl he, rfl⟩
  | ok clauses =>
    obtain ⟨e', hl, hi⟩ := insertRows_eq k records clauses he
    exact ⟨e', hl, by simp only [Attempt.andThen_ok, hi]⟩

/-- An operation with one clause of its own goes on with its statement. -/
theorem statement_eq (he : e.registry.Sound) (k : F.Key) (s : Session) {α : Type}
    (own : TableSchema (F.Rec k) → Except Error Clause) (shape : List Clause.Kind)
    (f : Statement → Engine F σ κ → Attempt (Engine F σ κ) α) :
    ∃ e', e.Learns e' ∧
      (s.withTaken e fun clauses e => (e.schema k).andThen fun schema e =>
        Attempt.andThen (own schema, e) fun c e =>
          Attempt.andThen (assemble clauses c shape, e) f) =
        Attempt.andThen (s.statement k own shape, e') f := by
  obtain ⟨e', hl, h⟩ := s.withTaken_schema he k fun clauses schema e =>
    Attempt.andThen (own schema, e) fun c e => Attempt.andThen (assemble clauses c shape, e) f
  refine ⟨e', hl, h.trans ?_⟩
  simp only [statement, Attempt.andThen_bind]

theorem update_eq (he : e.registry.Sound) (k : F.Key) (assignments : List (String × Value))
    (s : Session) :
    ∃ e', e.Learns e' ∧
      s.update k assignments e =
        let r := Attempt.andThen
          (s.statement k (fun t => (resolve t assignments).map (.update t.name)) updateShape, e')
          fun st e => e.exec s.label st.sql st.params
        (r.1, s.reset, r.2) := by
  obtain ⟨e', hl, h⟩ := s.statement_eq he k
    (fun t => (resolve t assignments).map (.update t.name)) updateShape
    fun st e => e.exec s.label st.sql st.params
  simp only [Attempt.andThen_map] at h
  exact ⟨e', hl, by simp only [update, h]⟩

theorem delete_eq (he : e.registry.Sound) (k : F.Key) (s : Session) :
    ∃ e', e.Learns e' ∧
      s.delete k e =
        let r := Attempt.andThen
          (s.statement k (fun t => .ok (.delete t.name)) deleteShape, e')
          fun st e => e.exec s.label st.sql st.params
        (r.1, s.reset, r.2) := by
  obtain ⟨e', hl, h⟩ := s.statement_eq he k (fun t => .ok (.delete t.name)) deleteShape
    fun st e => e.exec s.label st.sql st.params
  exact ⟨e', hl, by simp only [delete, ← h, Attempt.andThen_ok]⟩

theorem count_eq [Cursor κ] (he : e.registry.Sound) (k : F.Key) (s : Session) :
    ∃ e', e.Learns e' ∧
      s.count k e =
        let r := Attempt.andThen (s.statement k (fun t => .ok (.count t.name)) countShape, e')
          fun st e => (collect s.label st.sql st.params e).andThen fun rows e =>
            (countOfRows rows, e)
        (r.1, s.reset, r.2) := by
  obtain ⟨e', hl, h⟩ := s.statement_eq he k (fun t => .ok (.count t.name)) countShape
    fun st e => (collect s.label st.sql st.params e).andThen fun rows e => (countOfRows rows, e)
  exact ⟨e', hl, by simp only [count, ← h, Attempt.andThen_ok]⟩

/-- Finding records is selecting, then folding the rows into the destination. -/
theorem find_eq [Cursor κ] (he : e.registry.Sound) (k : F.Key) (dest : List (F.Rec k))
    (s : Session) :
    ∃ e', e.Learns e' ∧
      s.find k dest e =
        match s.selectStatement k with
        | .error err => ((.error err, s.reset, e'), dest)
        | .ok st =>
          let r := e'.fold s.label st.sql st.params (readInto k) dest
          ((r.1.1, s.reset, r.1.2), r.2) := by
  obtain ⟨e', hl, h⟩ := s.withTaken_schema he k fun clauses schema e =>
    ((assemble clauses (.select schema.name schema.columns) selectShape).map (schema, ·), e)
  refine ⟨e', hl, ?_⟩
  simp only [find, selectStatement, statement, h]
  cases s.taken with
  | error err => rfl
  | ok clauses =>
    cases hd : TableSchema.derive (F.model k) with
    | error err => rfl
    | ok schema =>
      cases Model.layout_of_derive hd
      simp only [Attempt.andThen_ok, Except.bind]
      cases assemble clauses _ selectShape <;> rfl

theorem first_eq [Cursor κ] (k : F.Key) (s : Session) :
    s.first k e =
      let r := (s.limit single).find k [] e
      (r.1.1.map fun _ => r.2.head?, r.1.2) := rfl

end Session

/-- Running an operation is carrying out its action on an engine that has learned the schemas that
it needs. -/
theorem Operation.run_eq [Cursor κ] (he : e.registry.Sound) (o : Operation F) (s : Session) :
    ∃ e', e.Learns e' ∧
      o.run s e =
        (((o.action s).run s.label e').1, o.after s, ((o.action s).run s.label e').2) := by
  cases o with
  | filter condition params => exact ⟨e, .refl he, rfl⟩
  | order ordering => exact ⟨e, .refl he, rfl⟩
  | limit n => exact ⟨e, .refl he, rfl⟩
  | reset => exact ⟨e, .refl he, rfl⟩
  | execRaw sql params => exact ⟨e, .refl he, rfl⟩
  | queryRaw sql params => exact ⟨e, .refl he, rfl⟩
  | insert k records =>
    obtain ⟨e', hl, h⟩ := Session.insert_eq he k records s
    refine ⟨e', hl, ?_⟩
    simp only [run, h, action, statement?]
    cases s.insertStatement k records <;> rfl
  | update k assignments =>
    obtain ⟨e', hl, h⟩ := Session.update_eq he k assignments s
    refine ⟨e', hl, ?_⟩
    simp only [run, h, action, statement?]
    cases s.statement k _ Session.updateShape <;> rfl
  | delete k =>
    obtain ⟨e', hl, h⟩ := Session.delete_eq he k s
    refine ⟨e', hl, ?_⟩
    simp only [run, h, action, statement?]
    cases s.statement k _ Session.deleteShape <;> rfl
  | count k =>
    obtain ⟨e', hl, h⟩ := Session.count_eq he k s
    refine ⟨e', hl, ?_⟩
    simp only [run, h, action, statement?]
    cases s.statement k _ Session.countShape with
    | error err => rfl
    | ok st =>
      have hc : Session.collect s.label st.sql st.params e' =
          let r := e'.fold s.label st.sql st.params Session.collectRow []
          (r.1.1.map fun _ => r.2, r.1.2) := rfl
      simp only [Attempt.andThen_ok, hc, issue, Action.run]
      cases (e'.fold s.label st.sql st.params Session.collectRow []).1.1 <;> rfl
  | find k dest =>
    obtain ⟨e', hl, h⟩ := Session.find_eq he k dest s
    refine ⟨e', hl, ?_⟩
    simp only [run, h, action, statement?]
    cases s.selectStatement k <;> rfl
  | first k =>
    obtain ⟨e', hl, h⟩ := Session.find_eq he k [] (s.limit Session.single)
    refine ⟨e', hl, ?_⟩
    simp only [run, Session.first_eq, h, action, statement?, Session.label_limit,
      Session.reset_limit]
    cases (s.limit Session.single).selectStatement k <;> rfl

end Running

end RecordMapper
