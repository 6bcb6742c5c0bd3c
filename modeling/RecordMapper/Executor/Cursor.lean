import RecordMapper.Error

/-!
# Cursors

A cursor is a forward-only sequence of rows. `consume` reads a cursor to its end, or to the first
failure, and folds the rows into a result; it terminates because a cursor has finitely many rows to
come. Every call made on the cursor is recorded with its answer, in order.
-/

namespace RecordMapper

/-- The operations of a cursor. `remaining` bounds the rows still to come. -/
class Cursor (κ : Type) where
  /-- Moves to the next row; false once the rows are exhausted. -/
  advance : κ → Except Error Bool × κ
  /-- The values of the current row. -/
  scan : κ → Except Error (List Value) × κ
  /-- Releases the cursor. -/
  close : κ → Except Error Unit × κ
  remaining : κ → Nat
  remaining_advance : ∀ c c', advance c = (.ok true, c') → remaining c' < remaining c
  remaining_scan : ∀ c, remaining (scan c).2 ≤ remaining c

/-- A call on an executor or one of its cursors, with the answer. -/
inductive Call where
  | exec (sql : String) (params : List Value) (answer : Except Error Int)
  | query (sql : String) (params : List Value) (answer : Except Error Unit)
  | advance (answer : Except Error Bool)
  | scan (answer : Except Error (List Value))
  | close (answer : Except Error Unit)

namespace Cursor

/-- What is left after a cursor was read: how the reading ended, the rows folded so far, the cursor
and the calls made on it. -/
structure Reading (α κ : Type) where
  outcome : Except Error Unit
  result : α
  cursor : κ
  calls : List Call

/-- The same reading with earlier calls in front. -/
def Reading.after {α κ : Type} (calls : List Call) (r : Reading α κ) : Reading α κ :=
  { r with calls := calls ++ r.calls }

/-- Reads rows until there are none, a call fails or `take` refuses a row. The rows are counted
from `row + 1`, and `take` gets the number of the row, its values and the result so far. -/
def consume {α κ : Type} [Cursor κ] (take : Nat → List Value → α → Except Error α) (row : Nat)
    (acc : α) (c : κ) : Reading α κ :=
  match _hadvance : advance c with
  | (.error e, c₁) => ⟨.error e, acc, c₁, [.advance (.error e)]⟩
  | (.ok false, c₁) => ⟨.ok (), acc, c₁, [.advance (.ok false)]⟩
  | (.ok true, c₁) =>
    match _hscan : scan c₁ with
    | (.error e, c₂) => ⟨.error e, acc, c₂, [.advance (.ok true), .scan (.error e)]⟩
    | (.ok values, c₂) =>
      let calls := [.advance (.ok true), .scan (.ok values)]
      match take (row + 1) values acc with
      | .error e => ⟨.error e, acc, c₂, calls⟩
      | .ok acc => (consume take (row + 1) acc c₂).after calls
termination_by remaining c
decreasing_by
  have h₁ := remaining_advance _ _ _hadvance
  have h₂ := remaining_scan c₁
  rw [_hscan] at h₂
  exact Nat.lt_of_le_of_lt h₂ h₁

end Cursor

end RecordMapper
