import RecordMapper.Executor.Scripted
import RecordMapper.Proofs.Executor.Buffered
import RecordMapper.Proofs.Executor.Reading
import RecordMapper.Proofs.Traversal

/-!
# Reading fetched rows

What comes of reading a cursor over rows that were fetched up front, of which some may not be
scannable, with an error behind the last row and another one at the closing. The reader counts the
rows that it gets, and the cursor counts the rows that it comes to; both are at the same row all the
time, which is what `ScriptedCursor.Stands` carries through the reading.
-/

namespace RecordMapper

/-- What scanning a fetched row gives, where it is the `n`-th. -/
def FetchedRow.scanned (n : Nat) (row : FetchedRow) : Except Error (List Value) :=
  row.mapError fun f => .scan n f.column (.reported f.reason)

theorem BufferedCursor.Stands.scan {rows : List FetchedRow} {trailing : Option Error} {i : Nat}
    {c : BufferedCursor} (h : Stands rows trailing (i + 1) c) {row : FetchedRow}
    (hrow : rows[i]? = some row) : c.scan.1 = row.scanned (i + 1) := by
  cases row with
  | ok values => exact h.scan_of_ok hrow
  | error f => exact h.scan_of_error hrow

namespace ScriptedCursor

open Cursor

/-- A cursor before the first of the given rows, with an error to report after the last and one to
report when it is closed. -/
def ofRows (rows : List FetchedRow) (trailing closeError : Option Error) : ScriptedCursor :=
  ⟨.ofRows rows trailing, closeError⟩

theorem close_eq (c : ScriptedCursor) :
    (Cursor.close c).1 = c.closeError.elim (.ok ()) .error := by
  obtain ⟨buffer, _ | e⟩ := c <;> rfl

/-- A cursor over the rows that was advanced to the `k`-th of them. -/
structure Stands (rows : List FetchedRow) (trailing closeError : Option Error) (k : Nat)
    (c : ScriptedCursor) : Prop where
  buffer : BufferedCursor.Stands rows trailing k c.buffer
  closeError : c.closeError = closeError

variable {rows : List FetchedRow} {trailing closeError : Option Error} {k : Nat}
  {c : ScriptedCursor}

theorem stands_ofRows (rows : List FetchedRow) (trailing closeError : Option Error) :
    Stands rows trailing closeError 0 (ofRows rows trailing closeError) :=
  ⟨BufferedCursor.stands_ofRows rows trailing, rfl⟩

theorem Stands.close (h : Stands rows trailing closeError k c) :
    (Cursor.close c).1 = closeError.elim (.ok ()) .error := by
  rw [close_eq, h.closeError]

/-- A cursor that has rows to come is advanced to the next one, and scans it as the row that it
has counted. -/
theorem Stands.next (h : Stands rows trailing closeError k c) {row : FetchedRow}
    (hrow : rows[k]? = some row) :
    ∃ c', Cursor.advance c = (.ok true, c') ∧ Cursor.scan c' = (row.scanned (k + 1), c') ∧
      Stands rows trailing closeError (k + 1) c' := by
  obtain ⟨hk, -⟩ := List.getElem?_eq_some_iff.1 hrow
  obtain ⟨hanswer, hnext⟩ := h.buffer.advance_of_lt hk
  refine ⟨{ c with buffer := c.buffer.advance.2 }, ?_, ?_, hnext, h.closeError⟩
  · exact Prod.ext hanswer rfl
  · refine Prod.ext (hnext.scan hrow) ?_
    change { c with buffer := c.buffer.advance.2.scan.2 } = _
    rw [BufferedCursor.scan_snd]

variable {α : Type} {take : Nat → List Value → α → Except Error α} {acc acc' : α}
  {ahead : List (List Value)}

/-- By induction on the rows that are taken: behind them the reader and the cursor have counted to
the same number. -/
theorem Stands.consume_ahead (h : Stands rows trailing closeError k c) {rest : List FetchedRow}
    (hrows : rows.drop k = ahead.map .ok ++ rest) (ht : takeAll take k ahead acc = .ok acc') :
    ∃ (c' : ScriptedCursor) (calls : List Call),
      Stands rows trailing closeError (k + ahead.length) c' ∧
      consume take k acc c = (consume take (k + ahead.length) acc' c').after calls := by
  induction ahead generalizing k c acc with
  | nil =>
    cases ht
    exact ⟨c, [], h, rfl⟩
  | cons values ahead ih =>
    have hrow : rows[k]? = some (.ok values) := by
      rw [← Nat.add_zero k, ← List.getElem?_drop, hrows]
      rfl
    have hrest : rows.drop (k + 1) = ahead.map .ok ++ rest := by
      rw [← List.tail_drop, hrows]
      rfl
    obtain ⟨c₁, hadvance, hscan, hnext⟩ := h.next hrow
    obtain ⟨acc₁, htake, ht⟩ := ok_of_bind ht
    obtain ⟨c', calls, hlast, hconsume⟩ := ih hnext hrest ht
    have hlen : k + 1 + ahead.length = k + (values :: ahead).length := by
      rw [List.length_cons, Nat.add_assoc, Nat.add_comm 1]
    rw [hlen] at hlast hconsume
    rw [consume_of_taken hadvance hscan htake, hconsume, Reading.after_after]
    exact ⟨c', _, hlast, rfl⟩

/-- Where no row is left, the reading ends with the error behind the rows, if there is one. -/
theorem Stands.consume_end (h : Stands rows trailing closeError k c) (hk : k = rows.length) :
    (consume take k acc c).Ends (trailing.elim (.ok ()) .error) acc
      (closeError.elim (.ok ()) .error) := by
  obtain ⟨hanswer, -⟩ := h.buffer.advance_of_le (Nat.le_of_eq hk.symm)
  rw [h.buffer.trailing, if_pos (Nat.le_of_eq hk)] at hanswer
  have hadvance : Cursor.advance c =
      (trailing.elim (.ok false) .error, { c with buffer := c.buffer.advance.2 }) :=
    Prod.ext hanswer rfl
  have hclose : (Cursor.close { c with buffer := c.buffer.advance.2 }).1 =
      closeError.elim (.ok ()) .error := by
    rw [close_eq, h.closeError]
  cases trailing with
  | none =>
    rw [consume_of_exhausted hadvance]
    exact ⟨rfl, rfl, hclose⟩
  | some err =>
    rw [consume_of_advance_error hadvance]
    exact ⟨rfl, rfl, hclose⟩

/-- A row that cannot be scanned, and one that is refused, end the reading. -/
theorem Stands.consume_failing (h : Stands rows trailing closeError k c) {row : FetchedRow}
    (hrow : rows[k]? = some row) {err : Error}
    (hf : (row.scanned (k + 1)).bind (take (k + 1) · acc) = .error err) :
    (consume take k acc c).Ends (.error err) acc (closeError.elim (.ok ()) .error) := by
  obtain ⟨c', hadvance, hscan, hnext⟩ := h.next hrow
  cases hs : row.scanned (k + 1) with
  | error cause =>
    rw [hs] at hscan hf
    cases hf
    rw [consume_of_scan_error hadvance hscan]
    exact ⟨rfl, rfl, hnext.close⟩
  | ok values =>
    rw [hs] at hscan hf
    rw [consume_of_refused hadvance hscan hf]
    exact ⟨rfl, rfl, hnext.close⟩

/-- Rows that are all taken are followed by the error behind them. -/
theorem consume_all (ht : takeAll take 0 ahead acc = .ok acc')
    (trailing closeError : Option Error) :
    (consume take 0 acc (ofRows (ahead.map .ok) trailing closeError)).Ends
      (trailing.elim (.ok ()) .error) acc' (closeError.elim (.ok ()) .error) := by
  have h := stands_ofRows (ahead.map .ok) trailing closeError
  obtain ⟨c', calls, hlast, hconsume⟩ := h.consume_ahead (List.append_nil _).symm ht
  rw [Nat.zero_add] at hlast hconsume
  rw [hconsume]
  exact (hlast.consume_end (List.length_map _).symm).after calls

/-- The first row that is not taken ends the reading, and the rows before it make up its result. -/
theorem consume_first_failing (ht : takeAll take 0 ahead acc = .ok acc') {row : FetchedRow}
    {err : Error}
    (hf : (row.scanned (ahead.length + 1)).bind (take (ahead.length + 1) · acc') = .error err)
    (behind : List FetchedRow) (trailing closeError : Option Error) :
    (consume take 0 acc (ofRows (ahead.map .ok ++ row :: behind) trailing closeError)).Ends
      (.error err) acc' (closeError.elim (.ok ()) .error) := by
  have h := stands_ofRows (ahead.map .ok ++ row :: behind) trailing closeError
  obtain ⟨c', calls, hlast, hconsume⟩ := h.consume_ahead rfl ht
  rw [Nat.zero_add] at hlast hconsume
  have hrow : (ahead.map .ok ++ row :: behind)[ahead.length]? = some row := by
    rw [List.getElem?_append_right (Nat.le_of_eq (List.length_map _)), List.length_map,
      Nat.sub_self]
    rfl
  rw [hconsume]
  exact (hlast.consume_failing hrow hf).after calls

end ScriptedCursor

end RecordMapper
