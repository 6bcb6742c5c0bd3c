import RecordMapper.Proofs.Session.Protocol
import RecordMapper.Proofs.Session.Statement

/-!
# The log of a session

A session enters every statement in the log before it hands the statement over, under its label and
with the number of parameters. `Operation.Account` lists what an operation can record: it is the one
inversion of a run from which everything here follows. Executors may have notes of their own about
the cursors that they open. These stand between the entry of a query and the call; `Event.own`
leaves them out.
-/

namespace RecordMapper

variable {F : Family} {σ κ : Type}

namespace LogEntry

/-- The entry of a query that is about to be handed over. -/
def isQuery : LogEntry → Bool
  | query .. => true
  | _ => false

/-- An entry of a statement. -/
def isStatement : LogEntry → Bool
  | exec .. | query .. => true
  | _ => false

/-- A warning that a cursor could not be closed. -/
def isCloseFailure : LogEntry → Bool
  | closeFailed .. => true
  | _ => false

end LogEntry

/-- The entry of a statement that a session hands over. -/
def Request.entry (label : String) : Request → LogEntry
  | exec st => .exec label st.sql st.params.length
  | query st => .query label st.sql st.params.length

/-! ## What sessions log themselves -/

namespace Event

/-- Whether the executor is at work on a query after an event: what is logged next is its own. -/
def noting : Bool → Event → Bool
  | _, called _ => false
  | noting, logged l => noting || l.isQuery

/-- The entries of sessions among some events, without the notes of executors; `noting` tells
whether the executor is at work on a query at the start. -/
def own : Bool → List Event → List LogEntry
  | _, [] => []
  | _, called _ :: es => own false es
  | true, logged _ :: es => own true es
  | false, logged l :: es => l :: own l.isQuery es

theorem own_append (noting₀ : Bool) (es fs : List Event) :
    own noting₀ (es ++ fs) = own noting₀ es ++ own (es.foldl noting noting₀) fs := by
  induction es generalizing noting₀ with
  | nil => rfl
  | cons ev es ih =>
    cases ev with
    | called c => exact ih false
    | logged l =>
      cases noting₀ with
      | true => exact ih true
      | false => exact congrArg (l :: ·) (ih l.isQuery)

theorem log_append (es fs : List Event) : log (es ++ fs) = log es ++ log fs :=
  List.filterMap_append

theorem log_logged (ls : List LogEntry) : log (ls.map .logged) = ls := by
  induction ls with
  | nil => rfl
  | cons l ls ih => exact congrArg (l :: ·) ih

theorem log_called (cs : List Call) : log (cs.map .called) = [] := by
  induction cs with
  | nil => rfl
  | cons c cs ih => exact ih

/-- Entries of other kinds than queries are the session's, and the executor is not at work after
them. -/
theorem own_logged {ls : List LogEntry} (h : ∀ l ∈ ls, l.isQuery = false) :
    own false (ls.map .logged) = ls ∧ (ls.map .logged).foldl noting false = false := by
  induction ls with
  | nil => exact ⟨rfl, rfl⟩
  | cons l ls ih =>
    obtain ⟨hl, hls⟩ := List.forall_mem_cons.1 h
    obtain ⟨hown, hnoting⟩ := ih hls
    rw [List.map_cons, own, List.foldl_cons, noting, hl, hown]
    exact ⟨rfl, hnoting⟩

/-- What the executor notes while it is at work is left out. -/
theorem own_notes (ls : List LogEntry) :
    own true (ls.map .logged) = [] ∧ (ls.map .logged).foldl noting true = true := by
  induction ls with
  | nil => exact ⟨rfl, rfl⟩
  | cons l ls ih => exact ih

theorem own_called (cs : List Call) :
    own false (cs.map .called) = [] ∧ (cs.map .called).foldl noting false = false := by
  induction cs with
  | nil => exact ⟨rfl, rfl⟩
  | cons c cs ih => exact ih

end Event

/-- What happens to a cursor hands no statement over. -/
theorem Cursor.Course.request?_calls (x : Cursor.Course) :
    x.calls.filterMap Call.request? = [] := by
  have hrow (values : List Value) : (Cursor.rowCalls values).filterMap Call.request? = [] := rfl
  have hend : x.ending.calls.filterMap Call.request? = [] := by cases x.ending <;> rfl
  have hclose : [Call.close x.closed].filterMap Call.request? = [] := rfl
  simp [Cursor.Course.calls, List.filterMap_append, List.filterMap_flatMap, hrow, hend, hclose]

namespace Event

/-- The entries of statements among some events are those of the requests, in their order, and the
executor is not at work after the events. -/
structure Accounted (label : String) (es : List Event) : Prop where
  entries : (own false es).filter (·.isStatement) = (requests es).map (Request.entry label)
  settled : es.foldl noting false = false

variable {label : String}

theorem Accounted.nil : Accounted label [] := ⟨rfl, rfl⟩

theorem Accounted.append {es fs : List Event} (h : Accounted label es) (h' : Accounted label fs) :
    Accounted label (es ++ fs) := by
  refine ⟨?_, ?_⟩
  · rw [own_append, h.settled, List.filter_append, h.entries, h'.entries, requests_append,
      List.map_append]
  · rw [List.foldl_append, h.settled, h'.settled]

/-- Entries that are of no statement need no request. -/
theorem accounted_logged {ls : List LogEntry} (h : ∀ l ∈ ls, l.isStatement = false) :
    Accounted label (ls.map .logged) := by
  have hquery : ∀ l ∈ ls, l.isQuery = false := fun l hl => by
    have hs := h l hl
    cases l <;> first | rfl | cases hs
  obtain ⟨hown, hsettled⟩ := own_logged hquery
  refine ⟨?_, hsettled⟩
  rw [hown, requests_logged, List.map_nil, List.filter_eq_nil_iff]
  intro l hl
  rw [h l hl]
  exact Bool.false_ne_true

end Event

namespace Engine

/-- A close failure is the only thing that is logged when a cursor is closed. -/
theorem mem_closingNotes {label : String} {outcome closed : Except Error Unit} {l : LogEntry}
    (h : l ∈ closingNotes label outcome closed) : ∃ err, l = .closeFailed label err := by
  unfold closingNotes at h
  split at h
  · exact ⟨_, List.mem_singleton.1 h⟩
  · cases h

variable (label sql : String) (params : List Value) (notes : List LogEntry) (x : Cursor.Course)

theorem courseEvents_eq :
    courseEvents label sql params notes x =
      .logged (.query label sql params.length) :: (notes.map .logged ++
        .called (.query sql params (.ok ())) :: (x.calls.map .called ++
          (closingNotes label x.ending.outcome x.closed).map .logged)) := by
  simp only [courseEvents, List.map_cons, List.cons_append, List.append_assoc]

theorem log_courseEvents :
    Event.log (courseEvents label sql params notes x) = .query label sql params.length ::
      (notes ++ closingNotes label x.ending.outcome x.closed) := by
  simp only [courseEvents, Event.log_append, Event.log_logged, Event.log_called, List.append_nil,
    List.cons_append]

/-- Of a query that opens a cursor, the session logs the statement and what the closing leaves to
be told. -/
theorem own_courseEvents :
    Event.own false (courseEvents label sql params notes x) =
        .query label sql params.length :: closingNotes label x.ending.outcome x.closed ∧
      (courseEvents label sql params notes x).foldl Event.noting false = false := by
  obtain ⟨hnotes, hnoting⟩ := Event.own_notes notes
  obtain ⟨hcalls, hcalled⟩ := Event.own_called x.calls
  have hquery : ∀ l ∈ closingNotes label x.ending.outcome x.closed, l.isQuery = false := by
    intro l hl
    obtain ⟨err, rfl⟩ := mem_closingNotes hl
    rfl
  obtain ⟨hclosing, hsettled⟩ := Event.own_logged hquery
  have hown : Event.own true (notes.map .logged ++ .called (.query sql params (.ok ())) ::
      (x.calls.map .called ++ (closingNotes label x.ending.outcome x.closed).map .logged)) =
      closingNotes label x.ending.outcome x.closed := by
    rw [Event.own_append, hnotes, hnoting, Event.own, Event.own_append, hcalls, hcalled, hclosing]
    rfl
  refine ⟨?_, ?_⟩
  · rw [courseEvents_eq]
    exact congrArg (LogEntry.query label sql params.length :: ·) hown
  · simp only [courseEvents_eq, List.foldl_cons, List.foldl_append, Event.noting, LogEntry.isQuery,
      Bool.false_or, hnoting, hcalled, hsettled]

theorem accounted_courseEvents : Event.Accounted label (courseEvents label sql params notes x) := by
  obtain ⟨hown, hsettled⟩ := own_courseEvents label sql params notes x
  refine ⟨?_, hsettled⟩
  have hclosing : (closingNotes label x.ending.outcome x.closed).filter (·.isStatement) = [] := by
    refine List.filter_eq_nil_iff.2 fun l hl => ?_
    obtain ⟨err, rfl⟩ := mem_closingNotes hl
    exact Bool.false_ne_true
  have hrequests : Event.requests (courseEvents label sql params notes x) =
      [.query ⟨sql, params⟩] := by
    rw [Event.requests, calls_courseEvents]
    exact congrArg (Request.query ⟨sql, params⟩ :: ·) x.request?_calls
  rw [hown, hrequests, List.filter_cons_of_pos rfl, hclosing]
  rfl

end Engine

namespace Operation

/-- The operation opens a cursor with its statement. -/
structure Opens (o : Operation F) (s : Session) (e : Engine F σ κ) (st : Statement) (c : κ) :
    Prop where
  queries : o.Queries
  statement : o.statement? s = some (.ok st)
  answer : (e.executor.query st.sql st.params e.state).1 = .ok c

/-- How an operation that has a statement hands it over. -/
theorem request_of_queries {o : Operation F} (ho : o.Queries) (st : Statement) :
    o.request st = .query st := by
  cases o <;> first | exact ho.elim | rfl

theorem issue_of_not_queries {o : Operation F} {s : Session} {st : Statement} (ho : ¬ o.Queries)
    (hst : o.statement? s = some (.ok st)) :
    o.request st = .exec st ∧ o.action s = .exec st .number := by
  rw [action, hst]
  cases o <;> first | exact ⟨rfl, rfl⟩ | exact (ho trivial).elim | cases hst

variable [Cursor κ] {o : Operation F} {s : Session} {e : Engine F σ κ}

/-- What an operation can record, after the schemas that it looks up. -/
inductive Account (o : Operation F) (s : Session) (e : Engine F σ κ) : List Event → Prop
  /-- It does not reach the executor. -/
  | unissued (hst : ∀ st, o.statement? s ≠ some (.ok st)) : Account o s e []
  /-- It runs its statement. -/
  | ran {st : Statement} (hst : o.statement? s = some (.ok st)) (hr : o.request st = .exec st) :
    Account o s e [.logged (.exec s.label st.sql st.params.length),
      .called (.exec st.sql st.params (e.executor.exec st.sql st.params e.state).1)]
  /-- Its query fails. -/
  | unopened {st : Statement} (hst : o.statement? s = some (.ok st))
    (hr : o.request st = .query st) {err : Error}
    (hq : (e.executor.query st.sql st.params e.state).1 = .error err) :
    Account o s e [.logged (.query s.label st.sql st.params.length),
      .called (.query st.sql st.params (.error err))]
  /-- It reads a cursor to its end or to a failure, and closes it. -/
  | read {st : Statement} {c c' : κ} (h : o.Opens s e st c) {x : Cursor.Course}
    (hans : Cursor.Answers c x.calls c') (hheeds : x.Heeds o.refusal?) :
    Account o s e (Engine.courseEvents s.label st.sql st.params (e.executor.notes c) x)

theorem account (he : e.registry.Sound) (o : Operation F) (s : Session) :
    ∃ es, o.Records s e es ∧ o.Account s e es := by
  by_cases hst : ∃ st, o.statement? s = some (.ok st)
  · obtain ⟨st, hst⟩ := hst
    by_cases ho : o.Queries
    · cases hq : (e.executor.query st.sql st.params e.state).1 with
      | error err =>
        obtain ⟨hrecords, -⟩ := records_of_failed_query he ho hst hq
        exact ⟨_, hrecords, .unopened hst (request_of_queries ho st) hq⟩
      | ok c =>
        obtain ⟨x, c', hrecords, hans, hheeds, -⟩ := records_of_query he ho hst hq
        exact ⟨_, hrecords, .read ⟨ho, hst, hq⟩ hans hheeds⟩
    · obtain ⟨hr, ha⟩ := issue_of_not_queries ho hst
      exact ⟨_, (records_of_exec he ha).1, .ran hst hr⟩
  · have hnone : ∀ st, o.statement? s ≠ some (.ok st) := fun st h => hst ⟨st, h⟩
    exact ⟨[], records_of_no_statement he hnone, .unissued hnone⟩

theorem Account.accounted {es : List Event} (h : o.Account s e es) :
    Event.Accounted s.label es := by
  cases h with
  | unissued => exact .nil
  | ran => exact ⟨rfl, rfl⟩
  | unopened => exact ⟨rfl, rfl⟩
  | read => exact Engine.accounted_courseEvents _ _ _ _ _

/-- What an operation logs are entries of schemas, then those of the given events. -/
theorem Records.log {es : List Event} (h : o.Records s e es) :
    ∃ ls : List LogEntry, ls.filter (·.isCloseFailure) = [] ∧
      Event.log (history [o] s e) = ls ++ Event.log es ∧
      Event.own false (history [o] s e) = ls ++ Event.own false es := by
  obtain ⟨ls, hreg, hls⟩ := h
  have hquery : ∀ l ∈ ls, l.isQuery = false := by
    intro l hl
    obtain ⟨table, columns, rfl⟩ := hreg l hl
    rfl
  obtain ⟨hown, hsettled⟩ := Event.own_logged hquery
  refine ⟨ls, ?_, ?_, ?_⟩
  · refine List.filter_eq_nil_iff.2 fun l hl => ?_
    obtain ⟨table, columns, rfl⟩ := hreg l hl
    exact Bool.false_ne_true
  · rw [hls, Event.log_append, Event.log_logged]
  · rw [hls, Event.own_append, hown, hsettled]

theorem Records.accounted {es : List Event} (h : o.Records s e es)
    (hes : Event.Accounted s.label es) : Event.Accounted s.label (history [o] s e) := by
  obtain ⟨ls, hreg, hls⟩ := h
  rw [hls]
  refine .append (Event.accounted_logged fun l hl => ?_) hes
  obtain ⟨table, columns, rfl⟩ := hreg l hl
  rfl

theorem history_accounted (he : e.registry.Sound) (o : Operation F) (s : Session) :
    Event.Accounted s.label (history [o] s e) := by
  obtain ⟨es, hrecords, haccount⟩ := account he o s
  exact hrecords.accounted haccount.accounted

theorem requests_of_history (he : e.registry.Sound) (o : Operation F) (s : Session) :
    Event.requests (history [o] s e) = (o.action s).requests :=
  (run_issues he o s).requests_drop

/-- An operation that opens no cursor leaves nothing in the log but what the session puts there, and
no failure to close. -/
theorem own_of_not_opens (he : e.registry.Sound) (h : ∀ st c, ¬ o.Opens s e st c) :
    (Event.own false (history [o] s e)).filter (·.isCloseFailure) = [] ∧
      Event.own false (history [o] s e) = Event.log (history [o] s e) := by
  obtain ⟨es, hrecords, haccount⟩ := account he o s
  obtain ⟨ls, hls, hlog, hown⟩ := hrecords.log
  have hes : (Event.own false es).filter (·.isCloseFailure) = [] ∧
      Event.own false es = Event.log es := by
    cases haccount with
    | unissued => exact ⟨rfl, rfl⟩
    | ran => exact ⟨rfl, rfl⟩
    | unopened => exact ⟨rfl, rfl⟩
    | read hopens => exact (h _ _ hopens).elim
  rw [hlog, hown, List.filter_append, hls, hes.1, hes.2]
  exact ⟨rfl, rfl⟩

/-- An operation that opens a cursor leaves in the log, besides what the session puts there, the
notes of the executor on the cursor. -/
theorem own_of_opens (he : e.registry.Sound) {st : Statement} {c : κ} (h : o.Opens s e st c) :
    ∃ (x : Cursor.Course) (c' : κ) (ahead behind : List LogEntry),
      o.calls s e = .query st.sql st.params (.ok ()) :: x.calls ∧
      Cursor.Answers c x.calls c' ∧ x.Heeds o.refusal? ∧
      (Event.own false (history [o] s e)).filter (·.isCloseFailure) =
        Engine.closingNotes s.label x.ending.outcome x.closed ∧
      Event.own false (history [o] s e) = ahead ++ behind ∧
      Event.log (history [o] s e) = ahead ++ e.executor.notes c ++ behind := by
  obtain ⟨x, c', hrecords, hans, hheeds, -⟩ := records_of_query he h.queries h.statement h.answer
  obtain ⟨ls, hls, hlog, hown⟩ := hrecords.log
  rw [Engine.log_courseEvents] at hlog
  rw [(Engine.own_courseEvents ..).1] at hown
  refine ⟨x, c', ls ++ [.query s.label st.sql st.params.length],
    Engine.closingNotes s.label x.ending.outcome x.closed,
    hrecords.calls.trans (Engine.calls_courseEvents ..), hans, hheeds, ?_, ?_, ?_⟩
  · rw [hown, List.filter_append, hls, List.nil_append,
      List.filter_cons_of_neg Bool.false_ne_true, List.filter_eq_self]
    intro l hl
    obtain ⟨err, rfl⟩ := Engine.mem_closingNotes hl
    rfl
  · rw [hown, List.append_assoc, List.singleton_append]
  · rw [hlog, List.append_assoc, List.append_assoc, List.singleton_append]

theorem history_cons (he : e.registry.Sound) (o : Operation F) (ops : List (Operation F))
    (s : Session) :
    history (o :: ops) s e = history [o] s e ++ history ops (o.run s e).2.1 (o.run s e).2.2 := by
  have ho := run_issues he o s
  obtain ⟨es, hes, -⟩ := ho.events
  obtain ⟨fs, hfs, -⟩ := (runAll_issues ho.sound ops (o.run s e).2.1).events
  have hrun : (runAll (o :: ops) s e).2.2 = (runAll ops (o.run s e).2.1 (o.run s e).2.2).2.2 := rfl
  have hone : (runAll [o] s e).2.2 = (o.run s e).2.2 := rfl
  simp only [history, hrun, hone, hfs, hes, List.drop_left]
  rw [List.append_assoc, List.drop_left]

theorem label_run (o : Operation F) (s : Session) (e : Engine F σ κ) :
    (o.run s e).2.1.label = s.label := by
  rw [run_session, after]
  split
  · exact Session.label_stage s _
  · rfl

/-- Over a run of any length, the entries of statements are those of the requests. -/
theorem runAll_accounted (he : e.registry.Sound) (ops : List (Operation F)) (s : Session) :
    Event.Accounted s.label (history ops s e) := by
  induction ops generalizing s e with
  | nil =>
    have hnone : history [] s e = [] := List.drop_length
    rw [hnone]
    exact .nil
  | cons o ops ih =>
    have hrest := ih (run_issues he o s).sound (o.run s e).2.1
    rw [label_run] at hrest
    rw [history_cons he]
    exact (history_accounted he o s).append hrest

/-- The log accounts for every statement. Over any run the entries of statements that sessions log
are those of the statements handed to the executor, one for one and in the same order, whatever the
executor answers; an operation enters its statement if it has one and nothing otherwise. A warning
that a cursor could not be closed stands where the reading and the closing both failed. Besides what
the session logs there are only the notes of the executor on the cursor that it opened. -/
theorem log_accounts_for_statements (d : Dialect) (hint? : Option String) (he : e.registry.Sound)
    (past : List (Operation F)) (o : Operation F) :
    let own (ops : List (Operation F)) (s : Session) (e : Engine F σ κ) :=
      Event.own false (history ops s e)
    let label := hint?.getD ""
    (own past (.fresh d hint?) e).filter (·.isStatement) =
      (requests past (.fresh d hint?) e).map (Request.entry label) ∧
    let (_, s, e) := runAll past (.fresh d hint?) e
    (∀ st, o.statement? s = some (.ok st) →
      requests [o] s e = [o.request st] ∧
      (own [o] s e).filter (·.isStatement) = [(o.request st).entry label]) ∧
    ((∀ st, o.statement? s ≠ some (.ok st)) →
      o.calls s e = [] ∧ (own [o] s e).filter (·.isStatement) = []) ∧
    (∀ st c, o.Opens s e st c →
      ∃ (x : Cursor.Course) (c' : κ) (ahead behind : List LogEntry),
        o.calls s e = .query st.sql st.params (.ok ()) :: x.calls ∧
        Cursor.Answers c x.calls c' ∧ x.Heeds o.refusal? ∧
        (own [o] s e).filter (·.isCloseFailure) =
          Engine.closingNotes label x.ending.outcome x.closed ∧
        own [o] s e = ahead ++ behind ∧
        Event.log (history [o] s e) = ahead ++ e.executor.notes c ++ behind) ∧
    ((∀ st c, ¬ o.Opens s e st c) →
      (own [o] s e).filter (·.isCloseFailure) = [] ∧
      own [o] s e = Event.log (history [o] s e)) := by
  have hrun := runAll_accounted he past (.fresh d hint?)
  have hs := (runAll_issues he past (.fresh d hint?)).sound
  have hlabel : (runAll past (.fresh d hint?) e).2.1.label = hint?.getD "" := by
    rw [runAll_session, Session.label, (Session.stageAll_frame _ _).2.1]
    rfl
  dsimp only
  generalize (runAll past (.fresh d hint?) e).2.2 = e₁ at hs
  generalize (runAll past (.fresh d hint?) e).2.1 = s₁ at hlabel
  have hone := (history_accounted hs o s₁).entries
  rw [hlabel, requests_of_history hs] at hone
  refine ⟨hrun.entries, fun st hst => ?_, fun hst => ?_, fun st c hopens => ?_,
    own_of_not_opens hs⟩
  · rw [requests_of_statement hst] at hone
    exact ⟨(requests_of_history hs o s₁).trans (requests_of_statement hst), hone⟩
  · rw [requests_of_no_statement hst] at hone
    exact ⟨(records_of_no_statement hs hst).calls, hone⟩
  · rw [← hlabel]
    exact own_of_opens hs hopens

/-- A statement that fails, an update that is not issued, and a query of which neither the reading
nor the closing succeeds. -/
theorem log_accounts_for_statements_users :
    let lost : Error := .executor (.reported "lost")
    let cursor : ScriptedCursor :=
      { buffer := .ofRows [] (some (.executor (.reported "gone"))), closeError := some lost }
    let e : Engine Declaration.userFamily Script ScriptedCursor :=
      { executor := Script.executor, dialect := .sqlite,
        state := ⟨[.error (.executor (.reported "locked"))], [.ok cursor]⟩ }
    let past : List (Operation Declaration.userFamily) :=
      [.execRaw "DELETE FROM users WHERE id = ?" [.ofInt 1], .update () [("visits", .null)],
        .filter "active" []]
    let s := Session.fresh .sqlite (some "audit")
    (Event.own false (history past s e)).filter (·.isStatement) =
      [.exec "audit" "DELETE FROM users WHERE id = ?" 1] ∧
    let (_, s, e) := runAll past s e
    (Event.own false (history [.find () []] s e)).filter (·.isStatement) =
      [.query "audit"
        "SELECT \"id\", \"full_name\", \"active\", \"seen\" FROM \"users\" WHERE active" 0] ∧
    (Event.own false (history [.find () []] s e)).filter (·.isCloseFailure) =
      [.closeFailed "audit" lost] := by
  intro lost cursor e past s
  have hst : (find (F := Declaration.userFamily) () []).statement? (runAll past s e).2.1 =
      some (.ok ⟨"SELECT \"id\", \"full_name\", \"active\", \"seen\" FROM \"users\" " ++
        "WHERE active", []⟩) := by
    decide
  obtain ⟨hpast, hissued, -, hopens, -⟩ :=
    log_accounts_for_statements .sqlite (some "audit") (e := e) Registry.sound_empty past
      (.find () [])
  obtain ⟨x, c', -, -, -, hans, -, hclosing, -⟩ := hopens _ cursor ⟨trivial, hst, rfl⟩
  refine ⟨hpast, (hissued _ hst).2, hclosing.trans ?_⟩
  -- the first advance fails, so that there is only one course
  have hgone : (Cursor.advance cursor).1 = .error (.executor (.reported "gone")) := rfl
  obtain ⟨rows, ending, closed⟩ := x
  cases rows with
  | cons values rows => cases hgone.symm.trans hans.advance_inv.1
  | nil =>
    cases ending with
    | exhausted => cases hgone.symm.trans hans.advance_inv.1
    | unreadable err => cases hgone.symm.trans hans.advance_inv.1
    | refused values err => cases hgone.symm.trans hans.advance_inv.1
    | stuck err =>
      have hclosed : .error lost = closed := hans.advance_inv.2.close_inv.1
      rw [← hclosed]
      rfl

end Operation

end RecordMapper
