import RecordMapper.Executor.Scripted
import RecordMapper.Proofs.Executor.Protocol
import RecordMapper.Proofs.Schema.Declared
import RecordMapper.Proofs.Session.Requests

/-!
# Cursors of operations

The four operations that query their executor treat the cursor alike: they take it on a course that
ends with its closing, and they answer with the failure of the reading, or else with that of the
closing. An operation makes no call on a cursor if it has no statement or if its query fails.
-/

namespace RecordMapper

variable {F : Family}

/-- Whether an answer is a failure, and which. -/
def Answer.outcome : Answer F → Except Error Unit
  | staged => .ok ()
  | number answer => answer.map fun _ => ()
  | found _ outcome _ => outcome
  | first _ answer => answer.map fun _ => ()
  | rows answer => answer.map fun _ => ()

namespace Session

/-- Why a row cannot be read into a record, if it cannot. -/
def unreadable? (k : F.Key) (row : Nat) (values : List Value) : Option Error :=
  match (F.model k).layout.readRow (F.model k).initial row values with
  | .error err => some err
  | .ok _ => none

theorem readInto_eq_error_iff {k : F.Key} {row : Nat} {values : List Value}
    {acc : List (F.Rec k)} {err : Error} :
    readInto k row values acc = .error err ↔ unreadable? k row values = some err := by
  unfold readInto unreadable?
  cases (F.model k).layout.readRow (F.model k).initial row values <;> simp [Except.map]

theorem takeAll_collectRow (row : Nat) (rows acc : List (List Value)) :
    Cursor.takeAll collectRow row rows acc = .ok (acc ++ rows) := by
  induction rows generalizing row acc with
  | nil => rw [Cursor.takeAll, List.append_nil]
  | cons values rows ih =>
    have hrest := ih (row + 1) (acc ++ [values])
    rw [List.append_assoc, List.singleton_append] at hrest
    exact hrest

end Session

namespace Operation

open Session

/-- An operation that queries its executor. -/
def Queries : Operation F → Prop
  | find .. | first .. | count .. | queryRaw .. => True
  | _ => False

/-- The error with which an operation refuses a row, by the number of the row. A row that cannot be
read into a record is refused where records are found, and no row is refused elsewhere. -/
def refusal? : Operation F → Nat → List Value → Option Error
  | find k _ | first k => unreadable? k
  | _ => fun _ _ => none

/-- What becomes of an operation whose query was read to its end and closed: a count has to find a
number in the rows. -/
def verdict (rows : List (List Value)) : Operation F → Except Error Unit
  | count _ => (countOfRows rows).map fun _ => ()
  | _ => .ok ()

/-- The calls on the executor and on its cursors that an operation makes. -/
def calls {σ κ : Type} [Cursor κ] (o : Operation F) (s : Session) (e : Engine F σ κ) : List Call :=
  Event.calls ((o.run s e).2.2.events.drop e.events.length)

/-- How an operation folds the rows of its query and what it answers then. -/
structure Folds {α : Type} (o : Operation F) (take : Nat → List Value → α → Except Error α)
    (initial : α) (reply : Except Error Unit → α → Answer F) : Prop where
  refuses : ∀ {row values acc err},
    take row values acc = .error err ↔ o.refusal? row values = some err
  unopened : ∀ err, reply (.error err) initial = o.failure err
  failed : ∀ err x, (reply (.error err) x).outcome = .error err
  read : ∀ {rows x}, Cursor.takeAll take 0 rows initial = .ok x →
    (reply (.ok ()) x).outcome = o.verdict rows

/-- An operation that queries folds the rows of its query. -/
theorem issue_of_queries {o : Operation F} (ho : o.Queries) (st : Statement) :
    ∃ (α : Type) (take : Nat → List Value → α → Except Error α) (initial : α)
      (reply : Except Error Unit → α → Answer F),
      o.issue st = .query st take initial reply ∧ o.Folds take initial reply := by
  cases o with
  | find k dest =>
    exact ⟨_, _, _, _, rfl, readInto_eq_error_iff, fun _ => rfl, fun _ _ => rfl, fun _ => rfl⟩
  | first k =>
    exact ⟨_, _, _, _, rfl, readInto_eq_error_iff, fun _ => rfl, fun _ _ => rfl, fun _ => rfl⟩
  | count k =>
    refine ⟨_, _, _, _, rfl, ⟨nofun, nofun⟩, fun _ => rfl, fun _ _ => rfl, ?_⟩
    intro rows x h
    rw [takeAll_collectRow, List.nil_append] at h
    cases h
    rfl
  | queryRaw sql params =>
    exact ⟨_, _, _, _, rfl, ⟨nofun, nofun⟩, fun _ => rfl, fun _ _ => rfl, fun _ => rfl⟩
  | _ => exact ho.elim

variable {σ κ : Type} [Cursor κ] {e : Engine F σ κ} {o : Operation F} {s : Session}

/-- What a run adds to the history of its engine. -/
def history (ops : List (Operation F)) (s : Session) (e : Engine F σ κ) : List Event :=
  (runAll ops s e).2.2.events.drop e.events.length

/-- The operation records the given events, after the schemas that it looks up. -/
def Records (o : Operation F) (s : Session) (e : Engine F σ κ) (es : List Event) : Prop :=
  ∃ ls : List LogEntry, (∀ l ∈ ls, ∃ table columns, l = .registered table columns) ∧
    history [o] s e = ls.map .logged ++ es

theorem Records.calls {es : List Event} (h : o.Records s e es) : o.calls s e = Event.calls es := by
  obtain ⟨ls, -, hls⟩ := h
  have hcalls : o.calls s e = Event.calls (history [o] s e) := rfl
  rw [hcalls, hls, Event.calls_append, Event.calls_logged, List.nil_append]

/-- What an operation records is what its action records. -/
theorem run_records (he : e.registry.Sound) (o : Operation F) (s : Session) :
    ∃ e', e.Learns e' ∧ (o.run s e).1 = ((o.action s).run s.label e').1 ∧
      ∀ es, ((o.action s).run s.label e').2.events = e'.events ++ es → o.Records s e es := by
  obtain ⟨e', hl, h⟩ := o.run_eq he s
  obtain ⟨ls, hreg, hls⟩ := hl.events
  refine ⟨e', hl, by rw [h], fun es hes => ⟨ls, hreg, ?_⟩⟩
  have hrun : (runAll [o] s e).2.2 = (o.run s e).2.2 := rfl
  rw [history, hrun, h, hes, hls, List.append_assoc, List.drop_left]

/-- An operation without a statement records nothing. -/
theorem records_of_no_statement (he : e.registry.Sound)
    (hst : ∀ st, o.statement? s ≠ some (.ok st)) : o.Records s e [] := by
  obtain ⟨e', -, -, hrecords⟩ := run_records he o s
  have ha : ∃ answer, o.action s = .answer answer := by
    unfold action
    split
    · exact ⟨_, rfl⟩
    · exact ⟨_, rfl⟩
    · next st h => exact (hst st h).elim
  obtain ⟨answer, ha⟩ := ha
  rw [ha] at hrecords
  exact hrecords [] (List.append_nil _).symm

/-- An operation without a statement calls nothing. -/
theorem calls_of_no_statement (he : e.registry.Sound) {err : Error}
    (hst : o.statement? s = some (.error err)) :
    o.calls s e = [] ∧ (o.run s e).1 = o.failure err := by
  obtain ⟨e', -, hanswer, -⟩ := run_records he o s
  have ha : o.action s = .answer (o.failure err) := by rw [action, hst]
  rw [ha] at hanswer
  exact ⟨(records_of_no_statement he (by simp [hst])).calls, hanswer⟩

/-- An operation whose query fails records the statement and the call. -/
theorem records_of_failed_query (he : e.registry.Sound) (ho : o.Queries) {st : Statement}
    (hst : o.statement? s = some (.ok st)) {err : Error}
    (hq : (e.executor.query st.sql st.params e.state).1 = .error err) :
    o.Records s e [.logged (.query s.label st.sql st.params.length),
        .called (.query st.sql st.params (.error err))] ∧
      (o.run s e).1 = o.failure err := by
  obtain ⟨e', hl, hanswer, hrecords⟩ := run_records he o s
  obtain ⟨α, take, initial, reply, hissue, hfolds⟩ := issue_of_queries ho st
  have ha : o.action s = .query st take initial reply := by rw [action, hst, ← hissue]
  rw [ha] at hanswer hrecords
  rw [← hl.executor, ← hl.state] at hq
  have h : e'.query s.label st.sql st.params = (.error err, _) := Prod.ext hq rfl
  refine ⟨hrecords _ (Engine.fold_events_of_error hq s.label take initial), ?_⟩
  rw [hanswer, Action.run, Engine.fold_of_error h]
  exact hfolds.unopened err

/-- An operation whose query fails makes no call on a cursor. -/
theorem calls_of_failed_query (he : e.registry.Sound) (ho : o.Queries) {st : Statement}
    (hst : o.statement? s = some (.ok st)) {err : Error}
    (hq : (e.executor.query st.sql st.params e.state).1 = .error err) :
    o.calls s e = [.query st.sql st.params (.error err)] ∧ (o.run s e).1 = o.failure err := by
  obtain ⟨hrecords, hanswer⟩ := records_of_failed_query he ho hst hq
  exact ⟨hrecords.calls, hanswer⟩

/-- An operation whose query opens a cursor answers with the result of reading it, and with the
failure of the reading or else with that of the closing. -/
theorem answer_of_query (he : e.registry.Sound) {α : Type} {st : Statement}
    {take : Nat → List Value → α → Except Error α} {initial : α}
    {reply : Except Error Unit → α → Answer F} (ha : o.action s = .query st take initial reply)
    {c : κ} (hq : (e.executor.query st.sql st.params e.state).1 = .ok c)
    {outcome closed : Except Error Unit} {result : α}
    (h : (Cursor.consume take 0 initial c).Ends outcome result closed) :
    (o.run s e).1 = reply (outcome.bind fun _ => closed) result := by
  obtain ⟨e', hl, hrun⟩ := o.run_eq he s
  rw [← hl.executor, ← hl.state] at hq
  have hquery : e'.query s.label st.sql st.params = (.ok c, _) := Prod.ext hq rfl
  rw [hrun, ha, Action.run, Engine.fold_of_ok hquery]
  simp only [Engine.finish_eq, h.outcome, h.result, h.closed]

/-- Finding records answers with what reading the cursor of its statement makes of the
destination. -/
theorem answer_of_find (he : e.registry.Sound) {k : F.Key} {dest found : List (F.Rec k)}
    {st : Statement} (hst : s.selectStatement k = .ok st) {c : κ}
    (hq : (e.executor.query st.sql st.params e.state).1 = .ok c)
    {outcome closed : Except Error Unit}
    (h : (Cursor.consume (readInto k) 0 dest c).Ends outcome found closed) :
    ((find k dest).run s e).1 = .found k (outcome.bind fun _ => closed) found := by
  have ha : (find k dest).action s = .query st (readInto k) dest (.found k) := by
    rw [action, statement?, hst]
    rfl
  exact answer_of_query he ha hq h

/-- An operation whose query opens a cursor takes it on its course and records that. -/
theorem records_of_query (he : e.registry.Sound) (ho : o.Queries) {st : Statement}
    (hst : o.statement? s = some (.ok st)) {c : κ}
    (hq : (e.executor.query st.sql st.params e.state).1 = .ok c) :
    ∃ (x : Cursor.Course) (c' : κ),
      o.Records s e (Engine.courseEvents s.label st.sql st.params (e.executor.notes c) x) ∧
      Cursor.Answers c x.calls c' ∧ x.Heeds o.refusal? ∧
      (o.run s e).1.outcome = x.outcome.bind fun _ => o.verdict x.rows := by
  obtain ⟨e', hl, hanswer, hrecords⟩ := run_records he o s
  obtain ⟨α, take, initial, reply, hissue, hfolds⟩ := issue_of_queries ho st
  have ha : o.action s = .query st take initial reply := by rw [action, hst, ← hissue]
  rw [ha] at hanswer hrecords
  rw [← hl.executor, ← hl.state] at hq
  obtain ⟨x, c', hevents, hans, ho, htake, href⟩ := Engine.fold_course hq s.label take initial
  rw [hl.executor] at hevents
  refine ⟨x, c', hrecords _ hevents, hans, ⟨?_, ?_⟩, ?_⟩
  · intro i hi
    have hnot := Cursor.not_refused_of_takeAll
      (fun row values acc err => hfolds.refuses.2) htake i hi
    rwa [Nat.zero_add] at hnot
  · intro values err hend
    exact hfolds.refuses.1 (href values err hend)
  · rw [hanswer, Action.run]
    cases hx : x.outcome with
    | error err =>
      simp only [ho, hx]
      exact hfolds.failed err _
    | ok u =>
      simp only [ho, hx]
      exact hfolds.read htake

/-- An operation whose query opens a cursor takes it on its course. -/
theorem calls_of_query (he : e.registry.Sound) (ho : o.Queries) {st : Statement}
    (hst : o.statement? s = some (.ok st)) {c : κ}
    (hq : (e.executor.query st.sql st.params e.state).1 = .ok c) :
    ∃ (x : Cursor.Course) (c' : κ), o.calls s e = .query st.sql st.params (.ok ()) :: x.calls ∧
      Cursor.Answers c x.calls c' ∧ x.Heeds o.refusal? ∧
      (o.run s e).1.outcome = x.outcome.bind fun _ => o.verdict x.rows := by
  obtain ⟨x, c', hrecords, hcourse⟩ := records_of_query he ho hst hq
  exact ⟨x, c', hrecords.calls.trans (Engine.calls_courseEvents _ _ _), hcourse⟩

/-- An operation that runs a statement records it and the call, and answers with what it is
answered. -/
theorem records_of_exec (he : e.registry.Sound) {st : Statement}
    (ha : o.action s = .exec st .number) :
    let answer := (e.executor.exec st.sql st.params e.state).1
    o.Records s e [.logged (.exec s.label st.sql st.params.length),
        .called (.exec st.sql st.params answer)] ∧
      (o.run s e).1 = .number answer := by
  obtain ⟨e', hl, hanswer, hrecords⟩ := run_records he o s
  rw [ha] at hanswer hrecords
  rw [← hl.executor, ← hl.state]
  exact ⟨hrecords _ (e'.exec_events s.label st.sql st.params), hanswer⟩

/-- An operation that runs a statement makes one call, and answers with what it is answered. -/
theorem calls_of_exec (he : e.registry.Sound) {st : Statement}
    (ha : o.action s = .exec st .number) :
    let answer := (e.executor.exec st.sql st.params e.state).1
    o.calls s e = [.exec st.sql st.params answer] ∧ (o.run s e).1 = .number answer := by
  obtain ⟨hrecords, hanswer⟩ := records_of_exec he ha
  exact ⟨hrecords.calls, hanswer⟩

/-- The protocol of cursors. Whatever came before and whatever the executor and its cursor answer,
an operation that queries makes no call on a cursor without a statement or if the query fails.
Otherwise it advances and scans in turn, up to the first answer that ends the reading or the first
row that it refuses, and then closes the cursor, once. It answers with the failure of the reading,
or else with that of the closing. -/
theorem cursor_protocol (d : Dialect) (hint? : Option String) (he : e.registry.Sound)
    (past : List (Operation F)) (ho : o.Queries) :
    let (_, s, e) := runAll past (.fresh d hint?) e
    let answer := (o.run s e).1
    (∃ err, o.statement? s = some (.error err) ∧ o.calls s e = [] ∧ answer = o.failure err) ∨
    ∃ st, o.statement? s = some (.ok st) ∧
      ((∃ err, (e.executor.query st.sql st.params e.state).1 = .error err ∧
          o.calls s e = [.query st.sql st.params (.error err)] ∧ answer = o.failure err) ∨
        ∃ (c c' : κ) (x : Cursor.Course),
          (e.executor.query st.sql st.params e.state).1 = .ok c ∧
          o.calls s e = .query st.sql st.params (.ok ()) :: x.calls ∧
          Cursor.Answers c x.calls c' ∧ x.Heeds o.refusal? ∧
          answer.outcome = x.outcome.bind fun _ => o.verdict x.rows) := by
  have hs := (runAll_issues he past (.fresh d hint?)).sound
  dsimp only
  generalize (runAll past (.fresh d hint?) e).2.2 = e₁ at hs
  generalize (runAll past (.fresh d hint?) e).2.1 = s₁
  cases hst : o.statement? s₁ with
  | none => cases o <;> first | exact ho.elim | cases hst
  | some made =>
    cases made with
    | error err => exact .inl ⟨err, rfl, calls_of_no_statement hs hst⟩
    | ok st =>
      refine .inr ⟨st, rfl, ?_⟩
      cases hq : (e₁.executor.query st.sql st.params e₁.state).1 with
      | error err => exact .inl ⟨err, rfl, calls_of_failed_query hs ho hst hq⟩
      | ok c =>
        obtain ⟨x, c', hcourse⟩ := calls_of_query hs ho hst hq
        exact .inr ⟨c, c', x, rfl, hcourse⟩

/-- Users are found with a cursor of which the second row cannot be scanned and that cannot be
closed either. -/
theorem cursor_protocol_users :
    let cursor : ScriptedCursor :=
      { buffer := .ofRows [.ok [.ofInt 1, .text "Ann", .bool true, .null],
          .error ⟨"seen", "blob columns are not supported"⟩] none,
        closeError := some (.executor (.reported "lost")) }
    let e : Engine Declaration.userFamily Script ScriptedCursor :=
      { executor := Script.executor, dialect := .sqlite, state := ⟨[], [.ok cursor]⟩ }
    let (_, s, e) := runAll [.filter "active" []] (.fresh .sqlite none) e
    ∃ (sql : String) (c' : ScriptedCursor) (x : Cursor.Course),
      (find () []).calls s e = .query sql [] (.ok ()) :: x.calls ∧
      Cursor.Answers cursor x.calls c' ∧
      x.Heeds (find (F := Declaration.userFamily) () []).refusal? ∧
      ((find () []).run s e).1.outcome = x.outcome := by
  intro cursor e
  have hst : (find (F := Declaration.userFamily) () []).statement?
      (runAll [.filter "active" []] (.fresh .sqlite none) e).2.1 =
      some (.ok ⟨"SELECT \"id\", \"full_name\", \"active\", \"seen\" FROM \"users\" " ++
        "WHERE active", []⟩) := by
    decide
  rcases cursor_protocol .sqlite none (e := e) Registry.sound_empty [.filter "active" []]
    (o := .find () []) trivial with ⟨err, herr, -⟩ | ⟨st, hok, ⟨err, herr, -⟩ | ⟨c, c', x, hq, hx⟩⟩
  · cases hst.symm.trans herr
  · cases herr
  · cases hst.symm.trans hok
    cases hq
    obtain ⟨hcalls, hans, hheeds, hout⟩ := hx
    refine ⟨_, c', x, hcalls, hans, hheeds, hout.trans ?_⟩
    cases x.outcome <;> rfl

end Operation

end RecordMapper
