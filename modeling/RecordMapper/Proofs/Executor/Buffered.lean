import RecordMapper.Executor.Buffered

/-!
# What a buffered cursor answers

A cursor can be called in any order. As long as it is not closed, all that the calls before have
done to it is that it was advanced so many times: `Stands` describes the cursor after so many
advances, and every call keeps it so. `Shut` describes it from the first closing on. Both together
give the answer to the next call, whatever was called before.
-/

namespace RecordMapper

namespace Cursor

/-- A call that can be made on a cursor. -/
inductive Use where
  | advance
  | scan
  | close
deriving DecidableEq

variable {κ : Type} [Cursor κ]

/-- The cursor that a call leaves behind. -/
def step : Use → κ → κ
  | .advance, c => (advance c).2
  | .scan, c => (scan c).2
  | .close, c => (close c).2

/-- The cursor after some calls, the first of them made first. -/
def after (past : List Use) (c : κ) : κ := past.foldl (fun c call => step call c) c

@[simp] theorem after_cons (call : Use) (past : List Use) (c : κ) :
    after (call :: past) c = after past (step call c) := rfl

end Cursor

namespace BufferedCursor

open Cursor (Use after step)

@[simp] theorem step_advance (c : BufferedCursor) : step .advance c = c.advance.2 := rfl

@[simp] theorem step_scan (c : BufferedCursor) : step .scan c = c := scan_snd c

/-- The row that a cursor comes to with so many advances. -/
def rowAfter (rows : List FetchedRow) : Nat → Option FetchedRow
  | 0 => none
  | k + 1 => rows[k]?

/-- An open cursor over the rows that was advanced `k` times. -/
structure Stands (rows : List FetchedRow) (trailing : Option Error) (k : Nat)
    (c : BufferedCursor) : Prop where
  ahead : c.rows = rows.drop k
  current : c.current = rowAfter rows k
  position : c.position = min k rows.length
  /-- The error is there until the advance that leads behind the last row. -/
  trailing : c.trailing = if k ≤ rows.length then trailing else none
  opened : c.closed = false

/-- A cursor that was closed. -/
structure Shut (c : BufferedCursor) : Prop where
  closed : c.closed = true
  current : c.current = none

section Open

variable {rows : List FetchedRow} {trailing : Option Error} {k : Nat} {c : BufferedCursor}

theorem stands_ofRows (rows : List FetchedRow) (trailing : Option Error) :
    Stands rows trailing 0 (ofRows rows trailing) where
  ahead := rfl
  current := rfl
  position := (Nat.zero_min _).symm
  trailing := (if_pos (Nat.zero_le _)).symm
  opened := rfl

theorem Stands.advance_of_lt (h : Stands rows trailing k c) (hk : k < rows.length) :
    c.advance.1 = .ok true ∧ Stands rows trailing (k + 1) c.advance.2 := by
  have hrows : c.rows = rows[k] :: rows.drop (k + 1) := by
    rw [h.ahead, List.drop_eq_getElem_cons hk]
  have hadvance : c.advance = (.ok true, { c with
      rows := rows.drop (k + 1), current := some rows[k], position := c.position + 1 }) := by
    simp only [advance, h.opened, hrows, Bool.false_eq_true, if_false]
  rw [hadvance]
  refine ⟨rfl, rfl, ?_, ?_, ?_, h.opened⟩
  · exact (List.getElem?_eq_getElem hk).symm
  · have := h.position
    show c.position + 1 = min (k + 1) rows.length
    omega
  · show c.trailing = _
    rw [h.trailing, if_pos (Nat.le_of_lt hk)]
    exact (if_pos hk).symm

theorem Stands.advance_of_le (h : Stands rows trailing k c) (hk : rows.length ≤ k) :
    c.advance.1 = c.trailing.elim (.ok false) .error ∧
      Stands rows trailing (k + 1) c.advance.2 := by
  have hrows : c.rows = [] := by rw [h.ahead, List.drop_eq_nil_of_le hk]
  have hadvance : c.advance = (c.trailing.elim (.ok false) .error,
      { c with current := none, trailing := none }) := by
    simp only [advance, h.opened, hrows, Bool.false_eq_true, if_false]
    cases c.trailing <;> simp [← hrows]
  rw [hadvance]
  refine ⟨rfl, ?_, ?_, ?_, ?_, h.opened⟩
  · show c.rows = _
    rw [hrows, List.drop_eq_nil_of_le (by omega)]
  · exact (List.getElem?_eq_none hk).symm
  · have := h.position
    show c.position = min (k + 1) rows.length
    omega
  · -- the error goes with this advance, so none is left for a later one
    exact (if_neg (by omega)).symm

theorem Stands.advance (h : Stands rows trailing k c) :
    Stands rows trailing (k + 1) c.advance.2 := by
  by_cases hk : k < rows.length
  · exact (h.advance_of_lt hk).2
  · exact (h.advance_of_le (Nat.le_of_not_lt hk)).2

theorem Stands.scan_of_ok {i : Nat} {values : List Value} (h : Stands rows trailing (i + 1) c)
    (hrow : rows[i]? = some (.ok values)) : c.scan.1 = .ok values := by
  have hcurrent : c.current = some (.ok values) := h.current.trans hrow
  simp only [scan, hcurrent]

theorem Stands.scan_of_error {i : Nat} {f : RowFailure} (h : Stands rows trailing (i + 1) c)
    (hrow : rows[i]? = some (.error f)) :
    c.scan.1 = .error (.scan (i + 1) f.column (.reported f.reason)) := by
  have hcurrent : c.current = some (.error f) := h.current.trans hrow
  have hposition : c.position = i + 1 := by
    have := (List.getElem?_eq_some_iff.1 hrow).1
    have := h.position
    omega
  simp only [scan, hcurrent, hposition]

/-- Without a row to stand on, a scan is refused. -/
theorem scan_of_no_row (h : c.current = none) : c.scan.1 = .error (.executor .noCurrentRow) := by
  simp only [scan, h]

/-- By induction on the calls: those that are no advance leave an open cursor as it is. -/
theorem Stands.after (h : Stands rows trailing k c) {past : List Use} (hp : .close ∉ past) :
    Stands rows trailing (k + past.count .advance) (after past c) := by
  induction past generalizing k c with
  | nil => exact h
  | cons call past ih =>
    obtain ⟨hcall, hpast⟩ := not_or.1 (mt List.mem_cons.2 hp)
    cases call with
    | advance =>
      rw [List.count_cons_self, ← Nat.add_assoc, Nat.add_right_comm]
      exact ih h.advance hpast
    | scan =>
      rw [List.count_cons_of_ne (by decide), Cursor.after_cons, step_scan]
      exact ih h hpast
    | close => exact absurd rfl hcall

end Open

section Closed

variable {c : BufferedCursor}

theorem shut_close (c : BufferedCursor) : Shut c.close.2 := ⟨rfl, rfl⟩

theorem Shut.advance (h : Shut c) : c.advance = (.ok false, c) := by
  simp only [BufferedCursor.advance, h.closed, if_true]

theorem Shut.step (h : Shut c) (call : Use) : Shut (step call c) := by
  cases call with
  | advance => rwa [step_advance, h.advance]
  | scan => rwa [step_scan]
  | close => exact shut_close c

theorem Shut.after (h : Shut c) (past : List Use) : Shut (after past c) := by
  induction past generalizing c with
  | nil => exact h
  | cons call past ih => exact ih (h.step call)

/-- A cursor that was closed at some time is shut, whatever was called since. -/
theorem shut_after {past : List Use} (hp : .close ∈ past) (c : BufferedCursor) :
    Shut (after past c) := by
  induction past generalizing c with
  | nil => cases hp
  | cons call past ih =>
    rcases List.mem_cons.1 hp with hcall | hp
    · rw [Cursor.after_cons, ← hcall]
      exact (shut_close c).after past
    · exact ih hp _

end Closed

/-- What the next call on a cursor answers, whatever was called before.

Before the first closing, the advance that follows `k` others tells whether there is a row behind
the first `k`; the error that stopped the fetch is its answer once, behind the last row. A scan
gives the row that the last advance came to, under its number, as often as it is made. From the
first closing on there are no rows and no errors but misuse. -/
theorem answers_after (rows : List FetchedRow) (trailing : Option Error) (past : List Use) :
    let c := after past (ofRows rows trailing)
    let k := past.count .advance
    (.close ∉ past →
      (k < rows.length → c.advance.1 = .ok true) ∧
      (k = rows.length → c.advance.1 = trailing.elim (.ok false) .error) ∧
      (rows.length < k → c.advance.1 = .ok false) ∧
      (∀ i values, k = i + 1 → rows[i]? = some (.ok values) → c.scan.1 = .ok values) ∧
      (∀ i f, k = i + 1 → rows[i]? = some (.error f) →
        c.scan.1 = .error (.scan k f.column (.reported f.reason))) ∧
      (k = 0 ∨ rows.length < k → c.scan.1 = .error (.executor .noCurrentRow))) ∧
    (.close ∈ past →
      c.advance.1 = .ok false ∧ c.scan.1 = .error (.executor .noCurrentRow)) ∧
    c.close.1 = .ok () := by
  intro c k
  refine ⟨fun hp => ?_, fun hp => ?_, rfl⟩
  · have h : Stands rows trailing k c := by
      have := (stands_ofRows rows trailing).after hp
      rwa [Nat.zero_add] at this
    refine ⟨fun hk => ?_, fun hk => ?_, fun hk => ?_, fun i values hi hrow => ?_,
      fun i f hi hrow => ?_, fun hk => ?_⟩
    · exact (h.advance_of_lt hk).1
    · rw [(h.advance_of_le (Nat.le_of_eq hk.symm)).1, h.trailing, if_pos (Nat.le_of_eq hk)]
    · rw [(h.advance_of_le (Nat.le_of_lt hk)).1, h.trailing, if_neg (Nat.not_le.2 hk)]
      rfl
    · rw [hi] at h
      exact h.scan_of_ok hrow
    · rw [hi] at h ⊢
      exact h.scan_of_error hrow
    · -- there is no row before the first and none behind the last
      refine scan_of_no_row (h.current.trans ?_)
      cases hk' : k with
      | zero => rfl
      | succ i => exact List.getElem?_eq_none (by omega)
  · have h : Shut c := shut_after hp _
    exact ⟨by rw [h.advance], scan_of_no_row h.current⟩

/-- A row, a row that failed and an error behind them. The failed row is told by its number however
often the row before it was scanned, the error comes once, and a cursor that is closed before it is
advanced to the error keeps it to itself. -/
theorem answers_after_failed_row :
    let lost : Error := .executor (.reported "connection lost")
    let c := ofRows [.ok [.null], .error ⟨"payload", "not supported"⟩] (some lost)
    (after [.advance, .scan] c).scan.1 = .ok [.null] ∧
    (after [.advance, .scan, .scan, .advance] c).scan.1 =
      .error (.scan 2 "payload" (.reported "not supported")) ∧
    (after [.advance, .scan, .advance] c).advance.1 = .error lost ∧
    (after [.advance, .advance, .advance] c).scan.1 = .error (.executor .noCurrentRow) ∧
    (after [.advance, .advance, .advance] c).advance.1 = .ok false ∧
    (after [.advance, .advance, .close] c).advance.1 = .ok false := by
  intro lost c
  have h := answers_after [.ok [.null], .error ⟨"payload", "not supported"⟩] (some lost)
  obtain ⟨-, -, -, hfirst, -, -⟩ := (h [.advance, .scan]).1 (by decide)
  obtain ⟨-, -, -, -, hsecond, -⟩ := (h [.advance, .scan, .scan, .advance]).1 (by decide)
  obtain ⟨-, hlost, -⟩ := (h [.advance, .scan, .advance]).1 (by decide)
  obtain ⟨-, -, hlater, -, -, hbehind⟩ := (h [.advance, .advance, .advance]).1 (by decide)
  have hclosed := (h [.advance, .advance, .close]).2.1 (by decide)
  exact ⟨hfirst 0 _ rfl rfl, hsecond 1 _ rfl rfl, hlost rfl, hbehind (.inr (by decide)),
    hlater (by decide), hclosed.1⟩

end BufferedCursor

end RecordMapper
