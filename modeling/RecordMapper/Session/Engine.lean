import RecordMapper.Clause.Set
import RecordMapper.Executor.Basic
import RecordMapper.Log
import RecordMapper.Schema.Registry

/-!
# Engines

An engine owns an executor with its state, the schema registry and the dialect, which its sessions
share. Everything that an engine does is recorded in the order in which it happens: the calls on
the executor and its cursors, and the log entries.
-/

namespace RecordMapper

/-- Something that an engine did. -/
inductive Event where
  | logged (entry : LogEntry)
  | called (call : Call)

/-- The calls among some events. -/
def Event.calls (es : List Event) : List Call :=
  es.filterMap fun
    | .called c => some c
    | .logged _ => none

/-- The log entries among some events. -/
def Event.log (es : List Event) : List LogEntry :=
  es.filterMap fun
    | .logged l => some l
    | .called _ => none

/-- What an operation on a state gives, or why it failed, and the state afterwards. -/
abbrev Attempt (S α : Type) := Except Error α × S

namespace Attempt

variable {S α β : Type}

/-- Goes on with the result of an attempt, unless it failed. -/
def andThen (a : Attempt S α) (f : α → S → Attempt S β) : Attempt S β :=
  match a with
  | (.ok x, s) => f x s
  | (.error e, s) => (.error e, s)

@[simp]
theorem andThen_ok (x : α) (s : S) (f : α → S → Attempt S β) :
    andThen (.ok x, s) f = f x s := rfl

end Attempt

/-- An executor with its state, a registry, a dialect, and what was done so far. -/
structure Engine (F : Family) (σ κ : Type) where
  executor : Executor σ κ
  dialect : Dialect
  state : σ
  registry : Registry F := .empty
  events : List Event := []

namespace Engine

variable {F : Family} {σ κ : Type}

/-- Records what was done. -/
def record (e : Engine F σ κ) (es : List Event) : Engine F σ κ :=
  { e with events := e.events ++ es }

/-- The schema of a record type. -/
def schema (e : Engine F σ κ) (k : F.Key) : Attempt (Engine F σ κ) (TableSchema (F.Rec k)) :=
  match e.registry.model k with
  | (.error err, r) => (.error err, { e with registry := r })
  | (.ok o, r) =>
    (.ok o.shared.schema, { e with registry := r }.record (o.log.map .logged))

/-- Runs a statement that returns no rows. -/
def exec (hint sql : String) (params : List Value) (e : Engine F σ κ) :
    Attempt (Engine F σ κ) Int :=
  let e := e.record [.logged (.exec hint sql params.length)]
  let (answer, state) := e.executor.exec sql params e.state
  (answer, { e with state := state }.record [.called (.exec sql params answer)])

/-- Opens a cursor over the rows of a query. -/
def query (hint sql : String) (params : List Value) (e : Engine F σ κ) :
    Attempt (Engine F σ κ) κ :=
  let e := e.record [.logged (.query hint sql params.length)]
  let (answer, state) := e.executor.query sql params e.state
  let notes := (answer.map e.executor.notes).toOption.getD []
  let call := Call.query sql params (answer.map fun _ => ())
  (answer, { e with state := state }.record (notes.map Event.logged ++ [Event.called call]))

/-- Closes a cursor that was read to the given outcome. A failure of the reading wins over one of
the closing, which is then only logged. -/
def finish [Cursor κ] (hint : String) (c : κ) (outcome : Except Error Unit) (e : Engine F σ κ) :
    Attempt (Engine F σ κ) Unit :=
  let closed := (Cursor.close c).1
  let e := e.record [.called (.close closed)]
  match outcome, closed with
  | .error err, .error closeError =>
    (.error err, e.record [.logged (.closeFailed hint closeError)])
  | .error err, .ok () => (.error err, e)
  | .ok (), closed => (closed, e)

/-- Runs a query and folds its rows into a result. The result holds the rows read before any
failure. -/
def fold [Cursor κ] {α : Type} (hint sql : String) (params : List Value)
    (take : Nat → List Value → α → Except Error α) (acc : α) (e : Engine F σ κ) :
    Attempt (Engine F σ κ) Unit × α :=
  match e.query hint sql params with
  | (.error err, e) => ((.error err, e), acc)
  | (.ok c, e) =>
    let reading := Cursor.consume take 0 acc c
    let e := e.record (reading.calls.map .called)
    (e.finish hint reading.cursor reading.outcome, reading.result)

end Engine

end RecordMapper
