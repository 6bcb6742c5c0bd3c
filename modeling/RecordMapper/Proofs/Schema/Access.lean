import Mathlib.Data.Finset.Card
import RecordMapper.Proofs.Schema.Declared
import RecordMapper.Schema.Access

/-!
# Concurrent calls to a registry

However the steps of concurrent calls are mixed, a type has one schema. What a single step can do is
said once, by `Phase.Moves`. From this it follows that a step keeps every entry that there is, that
it leaves a call in a phase that the registry bears out, and that only a step that publishes can add
an entry, namely that of the call's own type. Whole runs follow by induction on the schedule.

The calls of a run are all those that its threads ever make. A schedule is free to mix their steps
in any way, so it can also let a thread finish one call before it starts the next.
-/

namespace RecordMapper

variable {F : Family}

theorem AnySchema.eq_mk_of_as? {held : AnySchema F} {k : F.Key}
    {s : Shared (TableSchema (F.Rec k))} (h : held.as? k = some s) : held = ⟨k, s⟩ := by
  obtain ⟨key, shared⟩ := held
  unfold as? at h
  split at h
  · next hk =>
    cases hk
    cases h
    rfl
  · cases h

namespace Registry

variable {r r' r'' : Registry F} {j k : F.Key}

/-- The types that have an entry, in the order in which they came by it. -/
def keys (r : Registry F) : List F.Key :=
  r.entries.map (·.1)

theorem size_eq_length_keys : r.size = r.keys.length :=
  (List.length_map _).symm

theorem entry?_eq_none_iff : r.entry? k = none ↔ k ∉ r.keys := by
  unfold entry?
  rw [Option.map_eq_none_iff, List.find?_eq_none, keys, List.mem_map]
  constructor
  · rintro h ⟨e, he, hk⟩
    exact h e he (decide_eq_true hk)
  · intro h e he hk
    exact h ⟨e, he, of_decide_eq_true hk⟩

theorem mem_keys_of_eq_some {held : AnySchema F} (h : r.entry? k = some held) : k ∈ r.keys := by
  apply Decidable.byContradiction
  intro hk
  rw [entry?_eq_none_iff.2 hk] at h
  cases h

/-- What `r` has published is published in `r'` as well, as the same instance. -/
def Extends (r r' : Registry F) : Prop :=
  ∀ k held, r.entry? k = some held → r'.entry? k = some held

theorem Extends.refl (r : Registry F) : r.Extends r :=
  fun _ _ h => h

theorem Extends.trans (h : r.Extends r') (h' : r'.Extends r'') : r.Extends r'' :=
  fun k held hk => h' k held (h k held hk)

/-! ## Deriving and publishing -/

theorem derive_of_ok {schema : TableSchema (F.Rec k)}
    (h : TableSchema.derive (F.model k) = .ok schema) :
    r.derive k = (.ok ⟨r.nextSerial, schema⟩, { r with nextSerial := r.nextSerial + 1 }) := by
  simp only [derive, h]

theorem derive_of_error {err : Error} (h : TableSchema.derive (F.model k) = .error err) :
    r.derive k = (.error err, r) := by
  simp only [derive, h]

section Publish

variable {s : Shared (TableSchema (F.Rec k))} {held : AnySchema F}

theorem publish_of_some (h : r.entry? k = some held) : r.publish k s = (held, r) := by
  simp only [publish, h]

theorem publish_of_none (h : r.entry? k = none) :
    r.publish k s = (⟨k, s⟩, { r with entries := r.entries ++ [(k, ⟨k, s⟩)] }) := by
  simp only [publish, h]

/-- A type that publishes has the entry that it is answered with, and no other entry changes. -/
theorem entry?_publish :
    Registry.entry? (r.publish k s).2 j = if j = k then some (r.publish k s).1 else r.entry? j := by
  cases h : r.entry? k with
  | some held =>
    rw [publish_of_some h]
    split
    · next hj => rw [hj, h]
    · rfl
  | none =>
    rw [publish_of_none h]
    by_cases hj : j = k
    · subst hj
      have hfind : r.entries.find? (fun e => decide (e.1 = j)) = none :=
        Option.map_eq_none_iff.1 h
      unfold entry?
      simp [List.find?_append, hfind]
    · unfold entry?
      simp [List.find?_append, hj, Ne.symm hj]

theorem keys_publish :
    (r.publish k s).2.keys = if k ∈ r.keys then r.keys else r.keys ++ [k] := by
  cases h : r.entry? k with
  | some held => rw [publish_of_some h, if_pos (mem_keys_of_eq_some h)]
  | none =>
    rw [publish_of_none h, if_neg (entry?_eq_none_iff.1 h)]
    simp [keys]

theorem extends_publish (r : Registry F) (s : Shared (TableSchema (F.Rec k))) :
    r.Extends (r.publish k s).2 := by
  intro j held hj
  rw [entry?_publish]
  split
  · next hjk =>
    subst hjk
    rw [publish_of_some hj]
  · exact hj

theorem Sound.publish (hr : r.Sound) (hd : TableSchema.derive (F.model k) = .ok s.schema) :
    (r.publish k s).2.Sound := by
  cases h : r.entry? k with
  | some held => rwa [publish_of_some h]
  | none =>
    rw [publish_of_none h]
    exact hr.add hd

/-- Publishing into a sound registry answers with an instance of the type, which is its entry from
then on. -/
theorem Sound.accept_publish (hr : r.Sound) (hd : TableSchema.derive (F.model k) = .ok s.schema) :
    ∃ s', Registry.accept k (r.publish k s).1 = .ok s' ∧
      Registry.entry? (r.publish k s).2 k = some ⟨k, s'⟩ := by
  have hentry : Registry.entry? (r.publish k s).2 k = some (r.publish k s).1 := by
    rw [entry?_publish, if_pos rfl]
  obtain ⟨s', hs', -⟩ := (hr.publish hd).accept hentry
  refine ⟨s', by rw [Registry.accept, hs'], ?_⟩
  rw [hentry, AnySchema.eq_mk_of_as? hs']

end Publish

end Registry

/-! ## One step -/

/-- What a step of a call brings about: an instance is derived, with its serial number, or a type is
published. -/
inductive Deed (F : Family) where
  | derived (k : F.Key) (serial : Nat)
  | published (k : F.Key)

namespace Deed

def serial? : Deed F → Option Nat
  | derived _ serial => some serial
  | published _ => none

def published? : Deed F → Option F.Key
  | derived _ _ => none
  | published k => some k

theorem published?_eq_some_iff {d : Deed F} {k : F.Key} :
    d.published? = some k ↔ d = published k := by
  cases d <;> simp [published?]

end Deed

namespace Phase

open Registry

variable {k : F.Key} {r r' : Registry F} {p : Phase F k}

/-- What is known of a call in a phase: a schema that it derived is one of its type, an instance
that it answered with is the entry of its type, and an error is that of deriving. -/
def Valid (r : Registry F) : Phase F k → Prop
  | started | missed => True
  | derived s => TableSchema.derive (F.model k) = .ok s.schema
  | finished (.ok s) => r.entry? k = some ⟨k, s⟩
  | finished (.error err) => TableSchema.derive (F.model k) = .error err

/-- What the next step of a call brings about. -/
def deed? (r : Registry F) : Phase F k → Option (Deed F)
  | missed => (r.derive k).1.toOption.map fun s => .derived k s.serial
  | derived _ => some (.published k)
  | started | finished _ => none

/-- The number of steps that a call needs at most. -/
def remaining : Phase F k → Nat
  | started => 3
  | missed => 2
  | derived _ => 1
  | finished _ => 0

theorem step_started_of_some {s : Shared (TableSchema (F.Rec k))} (h : r.lookup? k = some s) :
    started.step r = (finished (.ok s), r) := by
  simp only [step, h]

theorem step_started_of_none (h : r.lookup? k = none) :
    (started : Phase F k).step r = (missed, r) := by
  simp only [step, h]

theorem step_missed_of_error {err : Error} (h : TableSchema.derive (F.model k) = .error err) :
    (missed : Phase F k).step r = (finished (.error err), r) := by
  simp only [step, derive_of_error h]

theorem step_missed_of_ok {schema : TableSchema (F.Rec k)}
    (h : TableSchema.derive (F.model k) = .ok schema) :
    missed.step r =
      (derived ⟨r.nextSerial, schema⟩, { r with nextSerial := r.nextSerial + 1 }) := by
  simp only [step, derive_of_ok h]

theorem Valid.extends (h : p.Valid r) (he : r.Extends r') : p.Valid r' := by
  cases p with
  | started | missed | derived => exact h
  | finished answer =>
    cases answer with
    | ok s => exact he k _ h
    | error err => exact h

/-- What a step of a call can do: what it brings about, the phase that it leads to and the registry
that it leaves. -/
inductive Moves (r : Registry F) : Phase F k → Option (Deed F) → Phase F k → Registry F → Prop
  | found {s : Shared (TableSchema (F.Rec k))} :
    r.lookup? k = some s → Moves r started none (finished (.ok s)) r
  | missing : r.lookup? k = none → Moves r started none missed r
  | refused {err : Error} :
    TableSchema.derive (F.model k) = .error err → Moves r missed none (finished (.error err)) r
  | derives {schema : TableSchema (F.Rec k)} :
    TableSchema.derive (F.model k) = .ok schema →
      Moves r missed (some (.derived k r.nextSerial)) (derived ⟨r.nextSerial, schema⟩)
        { r with nextSerial := r.nextSerial + 1 }
  | publishes (s : Shared (TableSchema (F.Rec k))) :
    Moves r (derived s) (some (.published k)) (finished (Registry.accept k (r.publish k s).1))
      (r.publish k s).2
  | rests (answer : Except Error (Shared (TableSchema (F.Rec k)))) :
    Moves r (finished answer) none (finished answer) r

theorem moves_step (p : Phase F k) (r : Registry F) :
    Moves r p (p.deed? r) (p.step r).1 (p.step r).2 := by
  cases p with
  | started =>
    cases hl : r.lookup? k with
    | some s =>
      rw [step_started_of_some hl]
      exact .found hl
    | none =>
      rw [step_started_of_none hl]
      exact .missing hl
  | missed =>
    cases hd : TableSchema.derive (F.model k) with
    | error err =>
      rw [step_missed_of_error hd, deed?, derive_of_error hd]
      exact .refused hd
    | ok schema =>
      rw [step_missed_of_ok hd, deed?, derive_of_ok hd]
      exact .derives hd
  | derived s => exact .publishes s
  | finished answer => exact .rests answer

namespace Moves

variable {p' : Phase F k} {d : Option (Deed F)}

/-- A step keeps every entry. -/
theorem keeps (h : Moves r p d p' r') : r.Extends r' := by
  cases h with
  | found | missing | refused | rests => exact .refl r
  | derives => exact fun _ _ h => h
  | publishes s => exact extends_publish r s

/-- A step in a sound registry leaves the call in a valid phase and the registry sound. -/
theorem valid (h : Moves r p d p' r') (hp : p.Valid r) (hr : r.Sound) :
    p'.Valid r' ∧ r'.Sound := by
  cases h with
  | found hl =>
    obtain ⟨held, hheld, has⟩ := Option.bind_eq_some_iff.1 hl
    rw [AnySchema.eq_mk_of_as? has] at hheld
    exact ⟨hheld, hr⟩
  | missing => exact ⟨trivial, hr⟩
  | refused hd => exact ⟨hd, hr⟩
  | derives hd => exact ⟨hd, hr⟩
  | publishes s =>
    obtain ⟨s', haccept, hentry⟩ := hr.accept_publish hp
    rw [haccept]
    exact ⟨hentry, hr.publish hp⟩
  | rests answer => exact ⟨hp, hr⟩

/-- The types that have an entry after a step are those that had one and the one that the step
published. -/
theorem mem_keys (h : Moves r p d p' r') {j : F.Key} :
    j ∈ r'.keys ↔ j ∈ r.keys ∨ d = some (.published j) := by
  cases h with
  | found | missing | refused | rests => simp
  | derives => simp [keys]
  | publishes s =>
    -- to publish a type that has an entry changes nothing
    rw [keys_publish, Option.some_inj, Deed.published.injEq]
    split
    · next hk =>
      constructor
      · exact .inl
      · rintro (hj | rfl)
        · exact hj
        · exact hk
    · rw [List.mem_append, List.mem_singleton, eq_comm]

theorem nodup_keys (h : Moves r p d p' r') (hr : r.keys.Nodup) : r'.keys.Nodup := by
  cases h with
  | found | missing | refused | derives | rests => exact hr
  | publishes s =>
    rw [keys_publish]
    split
    · exact hr
    · next hk =>
      rw [List.nodup_append_comm]
      exact List.nodup_cons.2 ⟨hk, hr⟩

/-- A step draws the next serial number or none. -/
theorem serial (h : Moves r p d p' r') :
    (d.bind Deed.serial? = none ∧ r'.nextSerial = r.nextSerial) ∨
      (d.bind Deed.serial? = some r.nextSerial ∧ r'.nextSerial = r.nextSerial + 1) := by
  cases h with
  | found | missing | refused | rests => exact .inl ⟨rfl, rfl⟩
  | derives => exact .inr ⟨rfl, rfl⟩
  | publishes s =>
    refine .inl ⟨rfl, ?_⟩
    rw [publish]
    split <;> rfl

theorem remaining (h : Moves r p d p' r') : p'.remaining ≤ p.remaining - 1 := by
  cases h <;> simp [Phase.remaining]

end Moves

theorem finished_of_remaining (h : p.remaining = 0) : ∃ answer, p = finished answer := by
  cases p with
  | finished answer => exact ⟨answer, rfl⟩
  | started | missed | derived => cases h

end Phase

/-! ## Runs -/

namespace Access

open Registry

variable {calls : List (Access F)} {r : Registry F} {i : Nat} {a : Access F}

theorem stepAt_of_none (h : calls[i]? = none) : stepAt i calls r = (calls, r) := by
  simp only [stepAt, h]

theorem stepAt_of_some (h : calls[i]? = some a) :
    stepAt i calls r = (calls.set i ⟨a.key, (a.phase.step r).1⟩, (a.phase.step r).2) := by
  simp only [stepAt, h, step]

theorem run_cons (i : Nat) (schedule : List Nat) (calls : List (Access F)) (r : Registry F) :
    run (i :: schedule) calls r = run schedule (stepAt i calls r).1 (stepAt i calls r).2 := rfl

/-- What the next step of the call numbered `i` brings about. -/
def deedAt (i : Nat) (calls : List (Access F)) (r : Registry F) : Option (Deed F) :=
  (calls[i]?).bind fun a => a.phase.deed? r

/-- What the steps of a run bring about, in their order. -/
def history : List Nat → List (Access F) → Registry F → List (Deed F)
  | [], _, _ => []
  | i :: schedule, calls, r =>
    (deedAt i calls r).toList ++ history schedule (stepAt i calls r).1 (stepAt i calls r).2

/-- The registry and the calls bear each other out. -/
structure Consistent (calls : List (Access F)) (r : Registry F) : Prop where
  sound : r.Sound
  distinct : r.keys.Nodup
  valid : ∀ a ∈ calls, a.phase.Valid r

theorem consistent_start (ks : List F.Key) : Consistent (ks.map start) (.empty : Registry F) := by
  refine ⟨sound_empty, List.nodup_nil, ?_⟩
  intro a ha
  obtain ⟨k, -, rfl⟩ := List.mem_map.1 ha
  trivial

theorem extends_stepAt (i : Nat) (calls : List (Access F)) (r : Registry F) :
    r.Extends (stepAt i calls r).2 := by
  cases hi : calls[i]? with
  | none =>
    rw [stepAt_of_none hi]
    exact .refl r
  | some a =>
    rw [stepAt_of_some hi]
    exact (a.phase.moves_step r).keeps

theorem Consistent.stepAt (h : Consistent calls r) (i : Nat) :
    Consistent (Access.stepAt i calls r).1 (Access.stepAt i calls r).2 := by
  have hextends := extends_stepAt i calls r
  cases hi : calls[i]? with
  | none => rwa [stepAt_of_none hi]
  | some a =>
    rw [stepAt_of_some hi] at hextends ⊢
    have hmoves := a.phase.moves_step r
    obtain ⟨hvalid, hsound⟩ := hmoves.valid (h.valid a (List.mem_of_getElem? hi)) h.sound
    refine ⟨hsound, hmoves.nodup_keys h.distinct, ?_⟩
    -- the call that moved is valid by its move, the others because no entry is lost
    intro b hb
    rcases List.mem_or_eq_of_mem_set hb with hb | rfl
    · exact (h.valid b hb).extends hextends
    · exact hvalid

theorem extends_run (schedule : List Nat) (calls : List (Access F)) (r : Registry F) :
    r.Extends (run schedule calls r).2 := by
  induction schedule generalizing calls r with
  | nil => exact .refl r
  | cons i schedule ih => exact (extends_stepAt i calls r).trans (ih _ _)

theorem Consistent.run (h : Consistent calls r) (schedule : List Nat) :
    Consistent (Access.run schedule calls r).1 (Access.run schedule calls r).2 := by
  induction schedule generalizing calls r with
  | nil => exact h
  | cons i schedule ih => exact ih (h.stepAt i)

theorem mem_keys_stepAt {k : F.Key} (i : Nat) (calls : List (Access F)) (r : Registry F) :
    k ∈ (stepAt i calls r).2.keys ↔ k ∈ r.keys ∨ deedAt i calls r = some (.published k) := by
  cases hi : calls[i]? with
  | none => simp [stepAt_of_none hi, deedAt, hi]
  | some a =>
    rw [stepAt_of_some hi, deedAt, hi]
    exact (a.phase.moves_step r).mem_keys

/-- The types that have an entry after a run are those that had one and those that were
published. -/
theorem mem_keys_run {k : F.Key} (schedule : List Nat) (calls : List (Access F))
    (r : Registry F) :
    k ∈ (run schedule calls r).2.keys ↔
      k ∈ r.keys ∨ .published k ∈ history schedule calls r := by
  induction schedule generalizing calls r with
  | nil => simp [run, history]
  | cons i schedule ih =>
    rw [run_cons, ih, mem_keys_stepAt, history, List.mem_append, Option.mem_toList, or_assoc]

theorem serial_stepAt (i : Nat) (calls : List (Access F)) (r : Registry F) :
    ((deedAt i calls r).bind Deed.serial? = none ∧
        (stepAt i calls r).2.nextSerial = r.nextSerial) ∨
      ((deedAt i calls r).bind Deed.serial? = some r.nextSerial ∧
        (stepAt i calls r).2.nextSerial = r.nextSerial + 1) := by
  cases hi : calls[i]? with
  | none => simp [stepAt_of_none hi, deedAt, hi]
  | some a =>
    rw [stepAt_of_some hi, deedAt, hi]
    exact (a.phase.moves_step r).serial

/-- The instances that are derived in a run are numbered one after another. -/
theorem serials_history (schedule : List Nat) (calls : List (Access F)) (r : Registry F) :
    ∃ n, (history schedule calls r).filterMap Deed.serial? = List.range' r.nextSerial n := by
  induction schedule generalizing calls r with
  | nil => exact ⟨0, rfl⟩
  | cons i schedule ih =>
    obtain ⟨n, hn⟩ := ih (stepAt i calls r).1 (stepAt i calls r).2
    have hfirst : (deedAt i calls r).toList.filterMap Deed.serial? =
        ((deedAt i calls r).bind Deed.serial?).toList := by
      cases deedAt i calls r with
      | none => rfl
      | some d => cases d <;> rfl
    rw [history, List.filterMap_append, hfirst, hn]
    rcases serial_stepAt i calls r with ⟨hnone, hnext⟩ | ⟨hsome, hnext⟩
    · exact ⟨n, by rw [hnone, hnext]; rfl⟩
    · exact ⟨n + 1, by rw [hsome, hnext]; rfl⟩

/-- A call comes closer to its end with every step of its own. -/
theorem remaining_run (schedule : List Nat) (r : Registry F) (h : calls[i]? = some a) :
    ∃ p : Phase F a.key, (run schedule calls r).1[i]? = some ⟨a.key, p⟩ ∧
      p.remaining ≤ a.phase.remaining - schedule.count i := by
  induction schedule generalizing calls r a with
  | nil => exact ⟨a.phase, h, Nat.le_refl _⟩
  | cons j schedule ih =>
    rw [run_cons]
    by_cases hj : j = i
    · subst hj
      have hlt : j < calls.length := (List.getElem?_eq_some_iff.1 h).1
      have hnext : (stepAt j calls r).1[j]? = some ⟨a.key, (a.phase.step r).1⟩ := by
        rw [stepAt_of_some h]
        exact List.getElem?_set_self hlt
      obtain ⟨p, hp, hle⟩ := ih (stepAt j calls r).2 hnext
      refine ⟨p, hp, ?_⟩
      have hstep := (a.phase.moves_step r).remaining
      rw [List.count_cons_self]
      dsimp only at hle
      omega
    · have hnext : (stepAt j calls r).1[i]? = some a := by
        cases hjc : calls[j]? with
        | none => rwa [stepAt_of_none hjc]
        | some b => rwa [stepAt_of_some hjc, List.getElem?_set_ne hj]
      rw [List.count_cons_of_ne hj]
      exact ih (stepAt j calls r).2 hnext

/-- A call that nothing interrupts is the question of a registry that is used by one alone. -/
theorem run_alone (k : F.Key) (r : Registry F) :
    run [0, 0, 0] [start k] r =
      ([⟨k, .finished ((r.model k).1.map (·.shared))⟩], (r.model k).2) := by
  have hrun : run [0, 0, 0] [start k] r =
      let s₁ := (Phase.started : Phase F k).step r
      let s₂ := s₁.1.step s₁.2
      let s₃ := s₂.1.step s₂.2
      ([⟨k, s₃.1⟩], s₃.2) := rfl
  rw [hrun, Registry.model]
  cases hl : r.lookup? k with
  | some s =>
    rw [Phase.step_started_of_some hl]
    rfl
  | none =>
    rw [Phase.step_started_of_none hl]
    cases hd : TableSchema.derive (F.model k) with
    | error err =>
      simp only [Phase.step_missed_of_error hd, derive_of_error hd]
      rfl
    | ok schema =>
      simp only [derive_of_ok hd, Phase.step]
      cases accept k _ <;> rfl

/-- The number of published schemas is that of the types that some call has published. -/
theorem size_run (schedule : List Nat) (ks : List F.Key) :
    (run schedule (ks.map start) .empty).2.size =
      ((history schedule (ks.map start) .empty).filterMap Deed.published?).toFinset.card := by
  have hdistinct := ((consistent_start ks).run schedule).distinct
  rw [size_eq_length_keys, ← List.toFinset_card_of_nodup hdistinct]
  congr 1
  ext k
  rw [List.mem_toFinset, List.mem_toFinset, mem_keys_run, List.mem_filterMap]
  constructor
  · rintro (hk | hk)
    · cases hk
    · exact ⟨_, hk, rfl⟩
  · rintro ⟨d, hd, hk⟩
    rw [Deed.published?_eq_some_iff.1 hk] at hd
    exact .inr hd

/-- A call has answered when it has taken three steps. -/
theorem answered_of_count {ks : List F.Key} {schedule : List Nat} {k : F.Key}
    (hk : ks[i]? = some k) (hcount : 3 ≤ schedule.count i) (r : Registry F) :
    ∃ answer, (run schedule (ks.map start) r).1[i]? = some ⟨k, .finished answer⟩ := by
  have hstart : (ks.map start)[i]? = some (start k) := by
    rw [List.getElem?_map, hk]
    rfl
  obtain ⟨p, hp, hle⟩ := remaining_run schedule r hstart
  have hthree : (start k).phase.remaining = 3 := rfl
  have hzero : p.remaining = 0 := by omega
  obtain ⟨answer, rfl⟩ := Phase.finished_of_remaining hzero
  exact ⟨answer, hp⟩

namespace Consistent

variable {k : F.Key}

/-- An entry is a schema of its type. -/
theorem entry (h : Consistent calls r) {held : AnySchema F} (hk : r.entry? k = some held) :
    ∃ s, held = ⟨k, s⟩ ∧ TableSchema.derive (F.model k) = .ok s.schema := by
  obtain ⟨s, hs, hd⟩ := h.sound.accept hk
  exact ⟨s, AnySchema.eq_mk_of_as? hs, hd⟩

/-- An instance that a call answered with is the entry of its type. -/
theorem entry?_of_ok (h : Consistent calls r) {s : Shared (TableSchema (F.Rec k))}
    (hs : ⟨k, .finished (.ok s)⟩ ∈ calls) : r.entry? k = some ⟨k, s⟩ :=
  h.valid _ hs

/-- A call answers as deriving a schema of its type does. -/
theorem answer (h : Consistent calls r) {answer : Except Error (Shared (TableSchema (F.Rec k)))}
    (ha : ⟨k, .finished answer⟩ ∈ calls) :
    answer.map (·.schema) = TableSchema.derive (F.model k) := by
  have hvalid := h.valid _ ha
  cases answer with
  | ok s =>
    obtain ⟨s', hs', hd⟩ := h.entry (h.entry?_of_ok ha)
    cases hs'
    exact hd.symm
  | error err => exact Eq.symm hvalid

theorem entry?_of_error (h : Consistent calls r) {err : Error}
    (hd : TableSchema.derive (F.model k) = .error err) : r.entry? k = none := by
  cases hk : r.entry? k with
  | none => rfl
  | some held =>
    obtain ⟨s, -, hs⟩ := h.entry hk
    cases hd.symm.trans hs

end Consistent

/-- A type has one schema, however the steps of its calls and of all others are mixed. At every
point of every run that starts with an empty registry:

* no two instances that were derived have one serial number, and all calls for a type that succeeded
  have answered with one instance;
* an entry is a schema of its type, and it stays the same in the rest of the run;
* where deriving fails, it is for a fault of the model, there is no entry, and every answer is that
  failure;
* every answer is that of deriving, and none is the error that an entry belongs to another type;
* there are as many entries as types that were published;
* a call that has taken three steps has answered. -/
theorem one_schema_per_type (ks : List F.Key) (schedule : List Nat) :
    let calls := (run schedule (ks.map start) .empty).1
    let r := (run schedule (ks.map start) .empty).2
    let deeds := history schedule (ks.map start) .empty
    (deeds.filterMap Deed.serial?).Nodup ∧
    (∀ k s s', ⟨k, .finished (.ok s)⟩ ∈ calls → ⟨k, .finished (.ok s')⟩ ∈ calls → s = s') ∧
    (∀ k held, r.entry? k = some held →
      (∃ s, held = ⟨k, s⟩ ∧ TableSchema.derive (F.model k) = .ok s.schema) ∧
      ∀ rest, Registry.entry? (run rest calls r).2 k = some held) ∧
    (∀ k err, TableSchema.derive (F.model k) = .error err →
      (∃ fault, err = .invalidModel (F.model k).typeName fault) ∧ r.entry? k = none ∧
      ∀ answer, ⟨k, .finished answer⟩ ∈ calls → answer = .error err) ∧
    (∀ k answer, ⟨k, .finished answer⟩ ∈ calls →
      answer.map (·.schema) = TableSchema.derive (F.model k) ∧
      ∀ model, answer ≠ .error (.invalidModel model .foreignSchema)) ∧
    r.size = (deeds.filterMap Deed.published?).toFinset.card ∧
    ∀ i k, ks[i]? = some k → 3 ≤ schedule.count i →
      ∃ answer, calls[i]? = some ⟨k, .finished answer⟩ := by
  have h := (consistent_start ks).run schedule
  have hsize := size_run schedule ks
  obtain ⟨n, hserials⟩ := serials_history schedule (ks.map start) .empty
  refine ⟨?_, ?_, ?_, ?_, ?_, hsize, fun i k hk hc => answered_of_count hk hc _⟩
  · rw [hserials]
    exact List.nodup_range'
  · intro k s s' hs hs'
    have hsame := (h.entry?_of_ok hs).symm.trans (h.entry?_of_ok hs')
    cases hsame
    rfl
  · intro k held hk
    exact ⟨h.entry hk, fun rest => extends_run rest _ _ k held hk⟩
  · intro k err hd
    obtain ⟨fault, hfault, -⟩ := TableSchema.fault_of_derive hd
    refine ⟨⟨fault, hfault⟩, h.entry?_of_error hd, ?_⟩
    intro answer ha
    have hanswer := h.answer ha
    rw [hd] at hanswer
    cases answer with
    | ok s => cases hanswer
    | error err' => exact congrArg _ (Except.error.inj hanswer)
  · intro k answer ha
    refine ⟨h.answer ha, ?_⟩
    rintro model rfl
    obtain ⟨fault, hfault, hne⟩ := TableSchema.fault_of_derive (h.answer ha).symm
    cases hfault
    exact hne rfl

/-- Users and records without fields, which have no schema. -/
abbrev usersOrBlank : Family :=
  Declaration.family fun isBlank : Bool =>
    bif isBlank then { typeName := "app::Blank", fields := [], mapped := [] }
    else Declaration.users

/-- Two calls for users that both miss and both derive a schema, of which the second is published
first, beside a call for records without fields. -/
theorem one_schema_per_type_race :
    let ks : List usersOrBlank.Key := [false, false, true]
    let calls := (run [0, 1, 2, 0, 1, 2, 1, 0, 2] (ks.map start) .empty).1
    let r := (run [0, 1, 2, 0, 1, 2, 1, 0, 2] (ks.map start) .empty).2
    (∃ s, calls[0]? = some ⟨false, .finished (.ok s)⟩ ∧
      calls[1]? = some ⟨false, .finished (.ok s)⟩) ∧
    calls[2]? = some ⟨true, .finished (.error (.invalidModel "app::Blank" .noFields))⟩ ∧
    r.size = 1 := by
  intro ks
  have h := one_schema_per_type ks [0, 1, 2, 0, 1, 2, 1, 0, 2]
  generalize run [0, 1, 2, 0, 1, 2, 1, 0, 2] (ks.map start) .empty = reached at h ⊢
  obtain ⟨-, hsame, -, hfails, hanswers, hsize, hdone⟩ := h
  obtain ⟨answer₀, h₀⟩ := hdone 0 false rfl (by decide)
  obtain ⟨answer₁, h₁⟩ := hdone 1 false rfl (by decide)
  obtain ⟨answer₂, h₂⟩ := hdone 2 true rfl (by decide)
  have hm₀ := List.mem_of_getElem? h₀
  have hm₁ := List.mem_of_getElem? h₁
  have husers : TableSchema.derive (usersOrBlank.model false) =
      .ok (usersOrBlank.model false).layout := rfl
  have hblank : TableSchema.derive (usersOrBlank.model true) =
      .error (.invalidModel "app::Blank" .noFields) := rfl
  have hfail := (hfails true _ hblank).2.2 answer₂ (List.mem_of_getElem? h₂)
  have hok₀ := (hanswers false _ hm₀).1.trans husers
  have hok₁ := (hanswers false _ hm₁).1.trans husers
  refine ⟨?_, hfail ▸ h₂, hsize.trans (by decide +kernel)⟩
  cases answer₀ with
  | error err => cases hok₀
  | ok s =>
    cases answer₁ with
    | error err => cases hok₁
    | ok s' =>
      obtain rfl := hsame false s s' hm₀ hm₁
      exact ⟨s, h₀, h₁⟩

end Access

end RecordMapper
