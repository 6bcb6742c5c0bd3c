import RecordMapper.Proofs.Executor.Fetched
import RecordMapper.Proofs.Traversal
import RecordMapper.Store.StorageEngine

/-!
# Result sets in cursors

The rows of a result set are all fetched before the first of them is read. What a cell holds is
`Cell.Holds`, and the cells that are `Cell.Unreadable` hold no value. A row is converted from left
to right, up to the first cell that is unreadable. It then fails alone, since a row is converted
without a look at the others, and in its place, where the cursor keeps it until it is scanned.
-/

namespace RecordMapper

namespace Cell

/-- The value that a cell holds. Booleans and instants are not among the values of cells. -/
inductive Holds : Cell → Value → Prop
  | null : Holds .null .null
  | integer (i : Integer64) : Holds (.integer i) (.integer i)
  | real (r : Binary64) : Holds (.real r) (.real r)
  | text (s : String) : Holds (.text (Text.Utf8.encode s)) (.text s)

/-- The cells that hold no value: blobs, and text with bytes that encode none. -/
inductive Unreadable : Cell → Prop
  | blob (bytes : ByteArray) : Unreadable (.blob bytes)
  | text {bytes : ByteArray} (h : ∀ s, Text.Utf8.encode s ≠ bytes) : Unreadable (.text bytes)

variable {c : Cell} {v : Value}

theorem toValue_eq_ok_iff : c.toValue = .ok v ↔ c.Holds v := by
  constructor
  · intro h
    cases c with
    | null => cases h; exact .null
    | integer i => cases h; exact .integer i
    | real r => cases h; exact .real r
    | blob bytes => cases h
    | text bytes =>
      cases hd : Text.Utf8.decode bytes with
      | error fault => simp only [toValue, hd] at h; cases h
      | ok s =>
        simp only [toValue, hd] at h
        cases h
        exact Text.Utf8.encode_of_decode hd ▸ .text s
  · rintro (_ | _ | _ | s)
    · rfl
    · rfl
    · rfl
    · simp only [toValue, Text.Utf8.decode_encode]

theorem holds_or_unreadable (c : Cell) : (∃ v, c.Holds v) ∨ c.Unreadable := by
  cases c with
  | null => exact .inl ⟨_, .null⟩
  | integer i => exact .inl ⟨_, .integer i⟩
  | real r => exact .inl ⟨_, .real r⟩
  | blob bytes => exact .inr (.blob bytes)
  | text bytes =>
    cases hd : Text.Utf8.decode bytes with
    | ok s => exact .inl ⟨.text s, Text.Utf8.encode_of_decode hd ▸ .text s⟩
    | error fault =>
      refine .inr (.text fun s hs => ?_)
      rw [← hs, Text.Utf8.decode_encode] at hd
      cases hd

/-- A cell holds a value unless it is unreadable. -/
theorem exists_holds_iff : (∃ v, c.Holds v) ↔ ¬ c.Unreadable := by
  constructor
  · rintro ⟨v, hv⟩ h
    cases h with
    | blob bytes => cases hv
    | text h =>
      cases hv with
      | text s => exact h s rfl
  · exact (holds_or_unreadable c).resolve_right

theorem Holds.readable (h : c.Holds v) : ¬ c.Unreadable :=
  exists_holds_iff.1 ⟨v, h⟩

theorem unreadable_of_error {reason : String} (h : c.toValue = .error reason) : c.Unreadable := by
  rcases holds_or_unreadable c with ⟨v, hv⟩ | hc
  · cases (toValue_eq_ok_iff.2 hv).symm.trans h
  · exact hc

theorem Holds.kind (h : c.Holds v) : v.kind ∈ [.null, .integer, .real, .text] := by
  cases h <;> simp [Value.kind]

end Cell

namespace ResultSet

/-- The value of a cell in a column. -/
def convert (x : String × Cell) : Except RowFailure Value :=
  x.2.toValue.mapError (⟨x.1, ·⟩)

section Rows

variable {columns : List String} {cells : List Cell}

/-- A row is converted cell by cell, each with its column. -/
theorem convertRow_eq_mapM (columns : List String) (cells : List Cell) :
    convertRow columns cells = (columns.zip cells).mapM convert := by
  induction columns generalizing cells with
  | nil => rfl
  | cons column columns ih =>
    cases cells with
    | nil => rfl
    | cons cell cells =>
      rw [convertRow, List.zip_cons_cons, List.mapM_cons, ih, convert]
      cases cell.toValue with
      | error reason => rfl
      | ok v => cases (columns.zip cells).mapM convert <;> rfl

theorem convert_eq_ok_iff {x : String × Cell} {v : Value} :
    convert x = .ok v ↔ x.2.Holds v := by
  rw [← Cell.toValue_eq_ok_iff, convert]
  cases x.2.toValue <;> simp [Except.mapError]

theorem convert_eq_error_iff {x : String × Cell} {f : RowFailure} :
    convert x = .error f ↔ x.1 = f.column ∧ x.2.toValue = .error f.reason := by
  obtain ⟨column, reason⟩ := f
  rw [convert]
  cases x.2.toValue <;> simp [Except.mapError]

theorem convertRow_eq_ok_iff (hw : cells.length = columns.length) {values : List Value} :
    convertRow columns cells = .ok values ↔ List.Forall₂ Cell.Holds cells values := by
  have hcells : (columns.zip cells).map Prod.snd = cells := List.map_snd_zip (Nat.le_of_eq hw)
  rw [convertRow_eq_mapM, mapM_eq_ok_iff]
  simp only [convert_eq_ok_iff]
  rw [← List.forall₂_map_left_iff (f := Prod.snd), hcells]

/-- A row fails at its leftmost unreadable cell, with the column of that. -/
theorem convertRow_eq_error_iff {f : RowFailure} :
    convertRow columns cells = .error f ↔
      ∃ ahead cell behind, columns.zip cells = ahead ++ (f.column, cell) :: behind ∧
        (∀ a ∈ ahead, ¬ a.2.Unreadable) ∧ cell.toValue = .error f.reason := by
  rw [convertRow_eq_mapM, mapM_eq_error_iff]
  simp only [convert_eq_ok_iff, Cell.exists_holds_iff, convert_eq_error_iff]
  constructor
  · rintro ⟨ahead, ⟨column, cell⟩, behind, hzip, ha, rfl, hcell⟩
    exact ⟨ahead, cell, behind, hzip, ha, hcell⟩
  · rintro ⟨ahead, cell, behind, hzip, ha, hcell⟩
    exact ⟨ahead, _, behind, hzip, ha, rfl, hcell⟩

/-- What scanning the `n`-th row of a result set gives: the values of its cells, or the leftmost
column whose cell is unreadable. -/
inductive ScansAs (columns : List String) (n : Nat) (cells : List Cell) :
    Except Error (List Value) → Prop
  | row {values : List Value} (h : List.Forall₂ Cell.Holds cells values) :
    ScansAs columns n cells (.ok values)
  | failure {ahead behind : List (String × Cell)} {column : String} {cell : Cell} {reason : String}
    (hrow : columns.zip cells = ahead ++ (column, cell) :: behind)
    (ha : ∀ a ∈ ahead, ¬ a.2.Unreadable) (hcell : cell.Unreadable)
    (hreason : cell.toValue = .error reason) :
    ScansAs columns n cells (.error (.scan n column (.reported reason)))

theorem scanned_eq_iff (hw : cells.length = columns.length) {n : Nat}
    {outcome : Except Error (List Value)} :
    (convertRow columns cells).scanned n = outcome ↔ ScansAs columns n cells outcome := by
  constructor
  · rintro rfl
    cases hrow : convertRow columns cells with
    | ok values => exact .row ((convertRow_eq_ok_iff hw).1 hrow)
    | error f =>
      obtain ⟨ahead, cell, behind, hzip, ha, hcell⟩ := convertRow_eq_error_iff.1 hrow
      exact .failure hzip ha (Cell.unreadable_of_error hcell) hcell
  · intro h
    cases h with
    | row h =>
      rw [(convertRow_eq_ok_iff hw).2 h]
      rfl
    | @failure ahead behind column cell reason hrow ha _ hreason =>
      have hf : convertRow columns cells = .error ⟨column, reason⟩ :=
        convertRow_eq_error_iff.2 ⟨_, cell, _, hrow, ha, hreason⟩
      rw [hf]
      rfl

/-- No boolean and no instant comes out of a row. -/
theorem ScansAs.kind {n : Nat} {values : List Value} (h : ScansAs columns n cells (.ok values)) :
    ∀ v ∈ values, v.kind ∈ [.null, .integer, .real, .text] := by
  cases h with
  | row h =>
    induction h with
    | nil => exact List.forall_mem_nil _
    | cons hc _ ih => exact List.forall_mem_cons.2 ⟨hc.kind, ih⟩

end Rows

section Delivery

open Cursor (Use after)

variable {r : ResultSet} {k i : Nat} {c : BufferedCursor}

/-- The cursor of a result set after `k` advances. -/
def Stands (r : ResultSet) (k : Nat) (c : BufferedCursor) : Prop :=
  BufferedCursor.Stands (r.rows.map (convertRow r.columns)) (r.stop.map .storage) k c

theorem stands_after {past : List Use} (hp : .close ∉ past) :
    Stands r (past.count .advance) (after past r.cursor) := by
  have h := (BufferedCursor.stands_ofRows (r.rows.map (convertRow r.columns))
    (r.stop.map .storage)).after hp
  rwa [Nat.zero_add] at h

theorem Stands.advance_of_lt (h : Stands r k c) (hk : k < r.rows.length) :
    c.advance.1 = .ok true :=
  (BufferedCursor.Stands.advance_of_lt h (by rwa [List.length_map])).1

/-- Behind the last row the fault that stopped the query is told, at the first advance only. -/
theorem Stands.advance_of_le (h : Stands r k c) (hk : r.rows.length ≤ k) :
    c.advance.1 = if k = r.rows.length then
      r.stop.elim (.ok false) fun fault => .error (.storage fault) else .ok false := by
  have hlen : (r.rows.map (convertRow r.columns)).length = r.rows.length := List.length_map _
  rw [(BufferedCursor.Stands.advance_of_le h (hlen ▸ hk)).1, BufferedCursor.Stands.trailing h, hlen]
  by_cases hlast : k = r.rows.length
  · rw [if_pos hlast, if_pos (Nat.le_of_eq hlast)]
    cases r.stop <;> rfl
  · rw [if_neg hlast, if_neg (fun hle => hlast (Nat.le_antisymm hle hk))]
    rfl

theorem Stands.scan_iff (h : Stands r k c) (hk : k = i + 1) {cells : List Cell}
    (hrow : r.rows[i]? = some cells) (hw : cells.length = r.columns.length)
    {outcome : Except Error (List Value)} :
    c.scan.1 = outcome ↔ ScansAs r.columns k cells outcome := by
  subst hk
  have hfetched : (r.rows.map (convertRow r.columns))[i]? = some (convertRow r.columns cells) := by
    rw [List.getElem?_map, hrow]
    rfl
  rw [BufferedCursor.Stands.scan h hfetched, scanned_eq_iff hw]

end Delivery

end ResultSet

namespace StorageEngine

open Cursor (Use after)

section Query

variable {π σ : Type} {x : StorageEngine π σ} {sql : String} {values : List Value} {s : σ}

theorem query_of_error {fault : StorageFault} (h : x.prepare sql values s = .error fault) :
    x.query sql values s = (.error (.storage fault), s) := by
  simp only [query, h]

theorem query_of_ok {p : π} (h : x.prepare sql values s = .ok p) :
    x.query sql values s = (.ok (x.run p s).1.cursor, (x.run p s).2) := by
  simp only [query, h]

end Query

/-- What a query delivers, whatever the engine makes of its text. A fault before the run is the
error of the call and changes nothing. Otherwise the call opens a cursor with one row for each row
that the run yields, and in its place: the row that `k` advances lead to is scanned as the `k`-th
row of cells, be the other rows readable or not, and its values are those of its cells. The fault
that stopped the run is told once, by the advance behind the last row. -/
theorem query_delivers_every_row {π σ : Type} (x : StorageEngine π σ) (sql : String)
    (values : List Value) (s : σ) :
    (∀ fault, x.prepare sql values s = .error fault →
      x.query sql values s = (.error (.storage fault), s)) ∧
    ∀ p, x.prepare sql values s = .ok p →
      let r := (x.run p s).1
      (∀ cells ∈ r.rows, cells.length = r.columns.length) →
        ∃ opened, (x.query sql values s).1 = .ok opened ∧ ∀ past : List Use, .close ∉ past →
          let c := after past opened
          let k := past.count .advance
          (k < r.rows.length → c.advance.1 = .ok true) ∧
          (k = r.rows.length →
            c.advance.1 = r.stop.elim (.ok false) fun fault => .error (.storage fault)) ∧
          (r.rows.length < k → c.advance.1 = .ok false) ∧
          ∀ i cells, k = i + 1 → r.rows[i]? = some cells →
            (∀ outcome, c.scan.1 = outcome ↔ ResultSet.ScansAs r.columns k cells outcome) ∧
            ∀ row, c.scan.1 = .ok row → ∀ v ∈ row, v.kind ∈ [.null, .integer, .real, .text] := by
  refine ⟨fun fault hfault => query_of_error hfault, fun p hp => ?_⟩
  intro r hw
  refine ⟨r.cursor, by rw [query_of_ok hp], fun past hpast => ?_⟩
  intro c k
  have h : r.Stands k c := ResultSet.stands_after hpast
  refine ⟨h.advance_of_lt, fun hk => ?_, fun hk => ?_, fun i cells hk hrow => ?_⟩
  · rw [h.advance_of_le (Nat.le_of_eq hk.symm), if_pos hk]
  · rw [h.advance_of_le (Nat.le_of_lt hk), if_neg (Nat.ne_of_gt hk)]
  · have hscan (outcome : Except Error (List Value)) :
        c.scan.1 = outcome ↔ ResultSet.ScansAs r.columns k cells outcome :=
      h.scan_iff hk hrow (hw _ (List.mem_of_getElem? hrow))
    exact ⟨hscan, fun row hok => ((hscan _).1 hok).kind⟩

/-- The second row has a blob, the third invalid text and a blob, of which the text is blamed; the
row behind them can be read, and the number of the last note has no absolute value. -/
theorem query_delivers_every_row_notes :
    let stop : StorageFault := .interrupted "integer overflow"
    let invalid : ByteArray := ⟨#[0xff]⟩
    let r : ResultSet :=
      { columns := ["abs(id)", "title", "body"]
        rows := [[.integer (.clamp .i64 1), .text (Text.Utf8.encode "ab"), .null],
          [.integer (.clamp .i64 2), .null, .blob invalid],
          [.integer (.clamp .i64 3), .text invalid, .blob invalid], [.null, .null, .null]]
        stop := some stop }
    let x : StorageEngine Unit Unit :=
      { prepare := fun _ _ _ => .ok (), run := fun _ s => (r, s),
        affected := fun _ _ => .error (.storage .returnsRows) }
    ∃ opened, (x.query "SELECT abs(id), title, body FROM notes" [] ()).1 = .ok opened ∧
      let c (past : List Use) := after past opened
      (c [.advance]).scan.1 = .ok [.ofInt 1, .text "ab", .null] ∧
      (c [.advance, .scan, .advance]).scan.1 =
        .error (.scan 2 "body" (.reported "blob columns are not supported")) ∧
      (c (.replicate 3 .advance)).scan.1 = .error (.scan 3 "title" (.reported
        "invalid UTF-8 text: invalid utf-8 sequence of 1 bytes from index 0")) ∧
      (c (.replicate 4 .advance)).scan.1 = .ok [.null, .null, .null] ∧
      (c (.replicate 3 .advance)).advance.1 = .ok true ∧
      (c (.replicate 4 .advance)).advance.1 = .error (.storage stop) ∧
      (c (.replicate 5 .advance)).advance.1 = .ok false := by
  intro stop invalid r x
  have htext : (Cell.text invalid).toValue =
      .error "invalid UTF-8 text: invalid utf-8 sequence of 1 bytes from index 0" := by
    have hbytes : ¬ invalid.IsValidUTF8 := by decide
    simp only [Cell.toValue, Text.Utf8.decode, String.fromUTF8?, dif_neg hbytes]
    rfl
  have hw : ∀ cells ∈ r.rows, cells.length = r.columns.length := by decide
  obtain ⟨opened, hopened, h⟩ := (query_delivers_every_row x _ [] ()).2 () rfl hw
  refine ⟨opened, hopened, ?_⟩
  obtain ⟨-, -, -, hfirst⟩ := h [.advance] (by decide)
  obtain ⟨-, -, -, hsecond⟩ := h [.advance, .scan, .advance] (by decide)
  obtain ⟨hmore, -, -, hthird⟩ := h (.replicate 3 .advance) (by decide)
  obtain ⟨-, hstop, -, hfourth⟩ := h (.replicate 4 .advance) (by decide)
  obtain ⟨-, -, hend, -⟩ := h (.replicate 5 .advance) (by decide)
  refine ⟨?_, ?_, ?_, ?_, hmore (by decide), hstop (by decide), hend (by decide)⟩
  · exact ((hfirst 0 _ rfl rfl).1 _).2
      (.row (.cons (.integer _) (.cons (.text _) (.cons .null .nil))))
  · exact ((hsecond 1 _ rfl rfl).1 _).2 (.failure (show _ = [(_, _), (_, _)] ++ _ from rfl)
      (List.forall_mem_cons.2 ⟨(Cell.Holds.integer _).readable,
        List.forall_mem_singleton.2 Cell.Holds.null.readable⟩) (.blob _) rfl)
  · exact ((hthird 2 _ rfl rfl).1 _).2 (.failure (show _ = [(_, _)] ++ _ from rfl)
      (List.forall_mem_singleton.2 (Cell.Holds.integer _).readable)
      (Cell.unreadable_of_error htext) htext)
  · exact ((hfourth 3 _ rfl rfl).1 _).2 (.row (.cons .null (.cons .null (.cons .null .nil))))

end StorageEngine

end RecordMapper
