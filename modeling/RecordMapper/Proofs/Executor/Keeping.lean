import RecordMapper.Executor.Buffered
import RecordMapper.Proofs.Clause.Fragment
import RecordMapper.Proofs.Executor.Reading
import RecordMapper.Proofs.Value.Stored

/-!
# Executors that keep rows

What a store is relied on for: it keeps the rows of an INSERT by the names of its columns, and
answers a SELECT with the cells of the kept rows by the names of the selected columns. How a store
finds out what a text means is left open. The rows are delivered by a cursor that `Yields` them, and
reading such a cursor is folding a list.
-/

namespace RecordMapper

namespace Cursor

variable {α κ : Type} [Cursor κ]

/-- The cursor delivers exactly the given rows, then is exhausted and closes, all without a
failure. -/
inductive Yields : κ → List (List Value) → Prop
  | exhausted {c c' : κ} : advance c = (.ok false, c') → (close c').1 = .ok () → Yields c []
  | row {c c₁ c₂ : κ} {values : List Value} {rows : List (List Value)} :
    advance c = (.ok true, c₁) → scan c₁ = (.ok values, c₂) → Yields c₂ rows →
      Yields c (values :: rows)

/-- A cursor is read to its end if all its rows are taken. -/
theorem consume_of_yields {take : Nat → List Value → α → Except Error α} {c : κ}
    {rows : List (List Value)} (h : Yields c rows) {row : Nat} {acc acc' : α}
    (ht : takeAll take row rows acc = .ok acc') :
    (consume take row acc c).Ends (.ok ()) acc' (.ok ()) := by
  induction h generalizing row acc with
  | exhausted ha hc =>
    cases ht
    rw [consume_of_exhausted ha]
    exact ⟨rfl, rfl, hc⟩
  | row ha hs _ ih =>
    unfold takeAll at ht
    cases hx : take (row + 1) _ acc with
    | error e => rw [hx] at ht; cases ht
    | ok x =>
      rw [hx] at ht
      rw [consume_of_taken ha hs hx]
      exact (ih ht).after _

end Cursor

theorem BufferedCursor.yields {c : BufferedCursor} (hc : c.closed = false)
    (ht : c.trailing = none) {rows : List (List Value)} (hr : c.rows = rows.map .ok) :
    Cursor.Yields c rows := by
  induction rows generalizing c with
  | nil =>
    have ha : c.advance = (.ok false, { c with current := none }) := by
      simp [advance, hc, hr, ht]
    exact .exhausted ha rfl
  | cons values rows ih =>
    have ha : c.advance = (.ok true, { c with
        rows := rows.map .ok, current := some (.ok values), position := c.position + 1 }) := by
      simp [advance, hc, hr]
    exact .row ha rfl (ih hc ht rfl)

/-! ## Kept rows -/

/-- A statement as a store understands it. -/
inductive Understood where
  | insert (table : String) (columns : List String) (tuples : Nat)
  | select (table : String) (columns : List String)

/-- The values of a kept row, by column. -/
abbrev KeptRow := List (String × Value)

namespace KeptRow

/-- The row that is kept of a tuple. -/
def ofTuple (columns : List String) (tuple : List Value) : KeptRow :=
  columns.zip (tuple.map Value.stored)

/-- The cells of a row in some columns. -/
def cells (columns : List String) (row : KeptRow) : List Value :=
  columns.map fun c => (row.lookup c).getD .null

theorem cells_zip {columns : List String} (hd : columns.Nodup) {values : List Value}
    (hl : values.length = columns.length) : cells columns (columns.zip values) = values := by
  induction columns generalizing values with
  | nil =>
    rw [List.length_eq_zero_iff.1 hl]
    rfl
  | cons c columns ih =>
    obtain ⟨hc, hd⟩ := List.nodup_cons.1 hd
    cases values with
    | nil => cases hl
    | cons v values =>
      have hrest := ih hd (Nat.succ.inj hl)
      have hskip : ∀ b ∈ columns, ((c, v) :: columns.zip values).lookup b =
          (columns.zip values).lookup b := by
        intro b hb
        have hne : (b == c) = false := beq_eq_false_iff_ne.2 fun h => hc (h ▸ hb)
        rw [List.lookup_cons, hne]
      rw [cells, List.zip_cons_cons, List.map_cons, List.lookup_cons_self]
      rw [List.map_congr_left fun b hb => by rw [hskip b hb]]
      exact congrArg (v :: ·) hrest

/-- Where the columns differ, the cells of a row in the columns of its tuple are the stored values
of the tuple. -/
theorem cells_ofTuple {columns : List String} (hd : columns.Nodup) {tuple : List Value}
    (hl : tuple.length = columns.length) :
    cells columns (ofTuple columns tuple) = tuple.map Value.stored :=
  cells_zip hd (by rw [List.length_map, hl])

end KeptRow

/-- The executor keeps what it is told to insert. What a text means is given by `understand`, and
what a table holds in a state by `content`. -/
structure Executor.Keeps {σ κ : Type} [Cursor κ] (x : Executor σ κ)
    (understand : String → Option Understood) (content : σ → String → List KeptRow) : Prop where
  /-- The tuples of an INSERT are kept behind the rows of the table. -/
  exec : ∀ {sql table columns} {tuples : List (List Value)} (s : σ),
    understand sql = some (.insert table columns tuples.length) →
    (∀ tuple ∈ tuples, tuple.length = columns.length ∧ ∀ v ∈ tuple, v.Bindable) →
    ∃ n, (x.exec sql tuples.flatten s).1 = .ok n ∧
      content (x.exec sql tuples.flatten s).2 table =
        content s table ++ tuples.map (KeptRow.ofTuple columns)
  /-- A SELECT delivers the cells of all rows of the table in their order. -/
  query : ∀ {sql table columns} (s : σ), understand sql = some (.select table columns) →
    ∃ c, (x.query sql [] s).1 = .ok c ∧
      Cursor.Yields c ((content s table).map (KeptRow.cells columns))

/-- A store of all tables in memory. -/
def Executor.keeping (understand : String → Option Understood) :
    Executor (String → List KeptRow) BufferedCursor where
  exec sql params content :=
    match understand sql with
    | some (.insert table columns tuples) =>
      let rows := (List.replicate tuples columns.length).splitLengths params
      (.ok tuples, Function.update content table
        (content table ++ rows.map (KeptRow.ofTuple columns)))
    | _ => (.ok 0, content)
  query sql _ content :=
    match understand sql with
    | some (.select table columns) =>
      (.ok (.ofRows (((content table).map (KeptRow.cells columns)).map .ok) none), content)
    | _ => (.ok (.ofRows [] none), content)

theorem Executor.keeping_keeps (understand : String → Option Understood) :
    (keeping understand).Keeps understand fun content table => content table where
  exec {sql table columns tuples} content hu ht := by
    have hsplit := Clause.splitLengths_flatten fun tuple h => (ht tuple h).1
    refine ⟨tuples.length, ?_, ?_⟩
    · simp only [keeping, hu]
    · simp only [keeping, hu, hsplit, Function.update_self]
  query {sql table columns} content hu := by
    refine ⟨.ofRows (((content table).map (KeptRow.cells columns)).map .ok) none, ?_, ?_⟩
    · simp only [keeping, hu]
    · exact BufferedCursor.yields rfl rfl rfl

end RecordMapper
