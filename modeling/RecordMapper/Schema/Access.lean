import RecordMapper.Schema.Registry

/-!
# Concurrent access to a registry

A call that asks a registry for a schema takes three atomic steps: it looks the schema up, derives
one if there was none, and publishes it. Calls of several threads take their steps in any order,
which a schedule gives as the list of calls that step next.
-/

namespace RecordMapper

/-- How far a call for the schema of `k` has come. -/
inductive Phase (F : Family) (k : F.Key) where
  | started
  | missed
  | derived (s : Shared (TableSchema (F.Rec k)))
  | finished (answer : Except Error (Shared (TableSchema (F.Rec k))))

/-- The next atomic step of a call. -/
def Phase.step {F : Family} {k : F.Key} : Phase F k → Registry F → Phase F k × Registry F
  | .started, r =>
    match r.lookup? k with
    | some s => (.finished (.ok s), r)
    | none => (.missed, r)
  | .missed, r =>
    match r.derive k with
    | (.error e, r) => (.finished (.error e), r)
    | (.ok s, r) => (.derived s, r)
  | .derived s, r =>
    let (held, r) := r.publish k s
    (.finished (Registry.accept k held), r)
  | .finished answer, r => (.finished answer, r)

/-- A call in progress. -/
structure Access (F : Family) where
  key : F.Key
  phase : Phase F key

namespace Access

variable {F : Family}

/-- A call that has taken no step. -/
def start (k : F.Key) : Access F := ⟨k, .started⟩

/-- The next atomic step of a call. -/
def step (a : Access F) (r : Registry F) : Access F × Registry F :=
  let (phase, r) := a.phase.step r
  (⟨a.key, phase⟩, r)

/-- The call numbered `i` takes its next step, if there is such a call. -/
def stepAt (i : Nat) (calls : List (Access F)) (r : Registry F) : List (Access F) × Registry F :=
  match calls[i]? with
  | none => (calls, r)
  | some a =>
    let (a, r) := a.step r
    (calls.set i a, r)

/-- The calls take steps in the order of a schedule. -/
def run (schedule : List Nat) (calls : List (Access F)) (r : Registry F) :
    List (Access F) × Registry F :=
  schedule.foldl (fun s i => stepAt i s.1 s.2) (calls, r)

/-- The serial number of the schema that a call ended with: `none` before the end, `some none` if
it failed. -/
def answer? (a : Access F) : Option (Option Nat) :=
  match a.phase with
  | .finished (.ok s) => some (some s.serial)
  | .finished (.error _) => some none
  | _ => none

/-- As many calls for one type as `count` says, all of which look before any derives, and all of
which derive before any publishes. -/
def race (k : F.Key) (count : Nat) (r : Registry F) : List (Access F) × Registry F :=
  let turn := List.range count
  run (turn ++ turn ++ turn) (List.replicate count (start k)) r

end Access

end RecordMapper
