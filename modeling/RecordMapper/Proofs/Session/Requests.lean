import RecordMapper.Proofs.Executor.Alike
import RecordMapper.Proofs.Session.Action

/-!
# Requests

The statements that a run hands to its executor, read off the recorded events. An operation makes
the requests of its action, one at most, and two engines that answer these alike cannot be told
apart by the answer of the operation: neither by their executors' states nor by what their
registries hold.
-/

namespace RecordMapper

/-- A statement handed to an executor. -/
inductive Request where
  | exec (st : Statement)
  | query (st : Statement)
deriving DecidableEq

def Request.statement : Request → Statement
  | exec st | query st => st

/-- The statement that a call hands over, if it is not a call on a cursor. -/
def Call.request? : Call → Option Request
  | .exec sql params _ => some (.exec ⟨sql, params⟩)
  | .query sql params _ => some (.query ⟨sql, params⟩)
  | .advance _ | .scan _ | .close _ => none

namespace Event

/-- The requests among some events. -/
def requests (es : List Event) : List Request :=
  (calls es).filterMap Call.request?

@[simp]
theorem requests_nil : requests [] = [] := rfl

@[simp]
theorem requests_append (es fs : List Event) :
    requests (es ++ fs) = requests es ++ requests fs := by
  simp [requests, calls]

@[simp]
theorem requests_logged_cons (l : LogEntry) (es : List Event) :
    requests (.logged l :: es) = requests es := rfl

theorem requests_called_cons (c : Call) (es : List Event) :
    requests (.called c :: es) = c.request?.toList ++ requests es := by
  cases c <;> rfl

@[simp]
theorem requests_logged (ls : List LogEntry) : requests (ls.map .logged) = [] := by
  induction ls with
  | nil => rfl
  | cons l ls ih => exact ih

/-- Calls that only concern a cursor are no requests. -/
theorem requests_called {cs : List Call} (h : ∀ c ∈ cs, c.request? = none) :
    requests (cs.map .called) = [] := by
  induction cs with
  | nil => rfl
  | cons c cs ih =>
    obtain ⟨hc, hcs⟩ := List.forall_mem_cons.1 h
    rw [List.map_cons, requests_called_cons, hc, ih hcs]
    rfl

end Event

variable {F : Family} {σ κ : Type}

/-- The engine `e'` is `e` after it made the given requests; it still has its executor and its
dialect, and its registry is sound. -/
structure Engine.Issues (e : Engine F σ κ) (rs : List Request) (e' : Engine F σ κ) : Prop where
  executor : e'.executor = e.executor
  dialect : e'.dialect = e.dialect
  sound : e'.registry.Sound
  events : ∃ es, e'.events = e.events ++ es ∧ Event.requests es = rs

namespace Engine.Issues

variable {e e₁ e₂ e₃ : Engine F σ κ} {rs rs' : List Request}

theorem refl (he : e.registry.Sound) : e.Issues [] e :=
  ⟨rfl, rfl, he, [], by simp, rfl⟩

theorem trans (h : e₁.Issues rs e₂) (h' : e₂.Issues rs' e₃) : e₁.Issues (rs ++ rs') e₃ := by
  obtain ⟨es, hes, hr⟩ := h.events
  obtain ⟨es', hes', hr'⟩ := h'.events
  refine ⟨h'.executor.trans h.executor, h'.dialect.trans h.dialect, h'.sound, es ++ es', ?_, ?_⟩
  · rw [hes', hes, List.append_assoc]
  · rw [Event.requests_append, hr, hr']

theorem record (h : e₁.Issues rs e₂) (es : List Event) :
    e₁.Issues (rs ++ Event.requests es) (e₂.record es) :=
  h.trans ⟨rfl, rfl, h.sound, es, rfl, rfl⟩

theorem of_learns (h : e₁.Learns e₂) : e₁.Issues [] e₂ := by
  obtain ⟨ls, -, hls⟩ := h.events
  exact ⟨h.executor, h.dialect, h.sound, ls.map .logged, hls, Event.requests_logged ls⟩

/-- The requests are those of the events that came to the engine. -/
theorem requests_drop (h : e₁.Issues rs e₂) :
    Event.requests (e₂.events.drop e₁.events.length) = rs := by
  obtain ⟨es, hes, hr⟩ := h.events
  rw [hes, List.drop_left, hr]

end Engine.Issues

namespace Engine

variable {e : Engine F σ κ}

theorem exec_issues (he : e.registry.Sound) (hint sql : String) (params : List Value) :
    e.Issues [.exec ⟨sql, params⟩] (e.exec hint sql params).2 := by
  refine ⟨rfl, rfl, he, _, by simp only [exec, record, List.append_assoc]; rfl, rfl⟩

theorem query_issues (he : e.registry.Sound) (hint sql : String) (params : List Value) :
    e.Issues [.query ⟨sql, params⟩] (e.query hint sql params).2 := by
  refine ⟨rfl, rfl, he, _, by simp only [query, record, List.append_assoc]; rfl, ?_⟩
  simp only [Event.requests_append, Event.requests_logged_cons, Event.requests_logged,
    Event.requests_nil]
  rfl

theorem finish_issues [Cursor κ] (he : e.registry.Sound) (hint : String) (c : κ)
    (outcome : Except Error Unit) : e.Issues [] (e.finish hint c outcome).2 := by
  have hclose := (Issues.refl he).record [.called (.close (Cursor.close c).1)]
  unfold finish
  cases outcome with
  | ok u => exact hclose
  | error err =>
    rcases hc : (Cursor.close c).1 with closeError | u <;> rw [hc] at hclose
    · exact hclose.record [.logged (.closeFailed hint closeError)]
    · exact hclose

/-- Folding the rows of a query makes one request, however the reading ends. -/
theorem fold_issues [Cursor κ] {α : Type} (he : e.registry.Sound) (hint sql : String)
    (params : List Value) (take : Nat → List Value → α → Except Error α) (acc : α) :
    e.Issues [.query ⟨sql, params⟩] (e.fold hint sql params take acc).1.2 := by
  have hq := query_issues he hint sql params
  rcases h : e.query hint sql params with ⟨err | c, e'⟩ <;> rw [h] at hq
  · rw [fold_of_error h]
    exact hq
  · rw [fold_of_ok h]
    have hr : Event.requests ((Cursor.consume take 0 acc c).calls.map .called) = [] := by
      refine Event.requests_called fun call hcall => ?_
      rcases Cursor.consume_calls take 0 acc c call hcall with ⟨r, rfl⟩ | ⟨r, rfl⟩ <;> rfl
    have hread := hq.record ((Cursor.consume take 0 acc c).calls.map .called)
    rw [hr] at hread
    exact hread.trans (finish_issues hread.sound hint _ _)

end Engine

/-! ## The requests of an operation -/

/-- The requests that carrying out an action makes. -/
def Action.requests : Action F → List Request
  | .answer _ => []
  | .exec st _ => [.exec st]
  | .query st .. => [.query st]

theorem Action.length_requests_le (a : Action F) : a.requests.length ≤ 1 := by
  cases a with
  | answer a => exact Nat.zero_le 1
  | _ => exact Nat.le_refl 1

theorem Action.run_issues [Cursor κ] {e : Engine F σ κ} (he : e.registry.Sound) (label : String)
    (a : Action F) : e.Issues a.requests (a.run label e).2 := by
  cases a with
  | answer a => exact .refl he
  | exec st reply => exact Engine.exec_issues he label st.sql st.params
  | query st take initial reply =>
    exact Engine.fold_issues he label st.sql st.params take initial

namespace Operation

/-- The requests that a run makes. -/
def requests [Cursor κ] (ops : List (Operation F)) (s : Session) (e : Engine F σ κ) :
    List Request :=
  Event.requests ((runAll ops s e).2.2.events.drop e.events.length)

variable [Cursor κ] {e : Engine F σ κ}

theorem run_issues (he : e.registry.Sound) (o : Operation F) (s : Session) :
    e.Issues (o.action s).requests (o.run s e).2.2 := by
  obtain ⟨e', hl, h⟩ := o.run_eq he s
  rw [h]
  exact (Engine.Issues.of_learns hl).trans ((o.action s).run_issues hl.sound s.label)

theorem runAll_issues (he : e.registry.Sound) (ops : List (Operation F)) (s : Session) :
    e.Issues (requests ops s e) (runAll ops s e).2.2 := by
  suffices h : ∃ rs, e.Issues rs (runAll ops s e).2.2 by
    obtain ⟨rs, h⟩ := h
    unfold requests
    rw [h.requests_drop]
    exact h
  induction ops generalizing s e with
  | nil => exact ⟨[], .refl he⟩
  | cons o ops ih =>
    have ho := run_issues he o s
    obtain ⟨rs, h⟩ := ih ho.sound (o.run s e).2.1
    exact ⟨_, ho.trans h⟩

/-- Setter calls touch the session only. -/
theorem runAll_setters {setters : List (Operation F)} (hs : ∀ o ∈ setters, o.clause? ≠ none)
    (s : Session) (e : Engine F σ κ) :
    runAll setters s e =
      (setters.map fun _ => .staged, s.stageAll (setters.filterMap clause?), e) := by
  induction setters generalizing s with
  | nil => rfl
  | cons o setters ih =>
    obtain ⟨ho, hs⟩ := List.forall_mem_cons.1 hs
    obtain ⟨c, hc⟩ := Option.ne_none_iff_exists'.1 ho
    have hrun : o.run s e = (.staged, s.stage c, e) := by
      cases o <;> cases hc <;> rfl
    rw [runAll, hrun, List.filterMap_cons_some hc, Session.stageAll_cons]
    simp only [ih hs, List.map_cons]

/-- An operation after setter calls makes the requests of its action in the session that these
leave. -/
theorem requests_setters_concat (he : e.registry.Sound) {setters : List (Operation F)}
    (hs : ∀ o ∈ setters, o.clause? ≠ none) (o : Operation F) (s : Session) :
    requests (setters ++ [o]) s e =
      (o.action (s.stageAll (setters.filterMap clause?))).requests := by
  unfold requests
  rw [runAll_append, runAll_setters hs]
  exact (run_issues he o _).requests_drop

/-- An operation after a run makes the requests of its action in a session that holds what the
setter calls at the end of the run have staged. -/
theorem requests_after_run (he : e.registry.Sound) (past : List (Operation F)) (d : Dialect)
    (hint? : Option String) (o : Operation F) :
    requests [o] (runAll past (.fresh d hint?) e).2.1 (runAll past (.fresh d hint?) e).2.2 =
      (o.action ((Session.fresh d hint?).stageAll (collected past))).requests := by
  have hs := (runAll_issues he past (.fresh d hint?)).sound
  rw [← runAll_session past d hint? e]
  exact requests_setters_concat hs (List.forall_mem_nil _) o _

end Operation

/-! ## Engines that answer alike -/

variable {σ₁ σ₂ κ₁ κ₂ : Type} [Cursor κ₁] [Cursor κ₂]

/-- Two engines give answers to a request that cannot be told apart. -/
def Request.AnsweredAlike (e₁ : Engine F σ₁ κ₁) (e₂ : Engine F σ₂ κ₂) : Request → Prop
  | .exec st =>
    (e₁.executor.exec st.sql st.params e₁.state).1 = (e₂.executor.exec st.sql st.params e₂.state).1
  | .query st =>
    Cursor.AlikeAnswers (e₁.executor.query st.sql st.params e₁.state).1
      (e₂.executor.query st.sql st.params e₂.state).1

theorem Request.AnsweredAlike.refl (e : Engine F σ₁ κ₁) (r : Request) : r.AnsweredAlike e e := by
  cases r with
  | exec st => rfl
  | query st => exact Cursor.AlikeAnswers.refl _

variable {e₁ : Engine F σ₁ κ₁} {e₂ : Engine F σ₂ κ₂}

theorem Request.AnsweredAlike.of_learns {e₁' : Engine F σ₁ κ₁} {e₂' : Engine F σ₂ κ₂}
    (h₁ : e₁.Learns e₁') (h₂ : e₂.Learns e₂') {r : Request} (h : r.AnsweredAlike e₁ e₂) :
    r.AnsweredAlike e₁' e₂' := by
  cases r <;> simpa only [AnsweredAlike, h₁.executor, h₁.state, h₂.executor, h₂.state] using h

theorem Action.run_alike {a : Action F} (h : ∀ r ∈ a.requests, r.AnsweredAlike e₁ e₂)
    (label₁ label₂ : String) : (a.run label₁ e₁).1 = (a.run label₂ e₂).1 := by
  cases a with
  | answer a => rfl
  | exec st reply => exact congrArg reply (h _ (List.mem_singleton.2 rfl))
  | query st take initial reply =>
    obtain ⟨ho, hx⟩ :=
      Engine.fold_alike (h _ (List.mem_singleton.2 rfl)) label₁ label₂ take initial
    simp only [run, ho, hx]

/-- An operation gives the same answer on engines that answer its requests alike, in sessions for
which it comes down to the same action. -/
theorem Operation.run_alike (he₁ : e₁.registry.Sound) (he₂ : e₂.registry.Sound) {o : Operation F}
    {s₁ s₂ : Session} (ha : o.action s₁ = o.action s₂)
    (h : ∀ r ∈ (o.action s₁).requests, r.AnsweredAlike e₁ e₂) :
    (o.run s₁ e₁).1 = (o.run s₂ e₂).1 := by
  obtain ⟨e₁', hl₁, h₁⟩ := o.run_eq he₁ s₁
  obtain ⟨e₂', hl₂, h₂⟩ := o.run_eq he₂ s₂
  rw [h₁, h₂, ← ha]
  exact Action.run_alike (fun r hr => (h r hr).of_learns hl₁ hl₂) _ _

end RecordMapper
