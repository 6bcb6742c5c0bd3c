import Mathlib.Data.List.SplitLengths
import RecordMapper.Proofs.Clause.Set

/-!
# Fragments of clauses

What each clause is written as, and exactly when it is: one equivalence for each constructor. What
is to be known of fragments follows from these, without a look into `Clause.fragment`. The texts of
inserts, selects and updates have names of their own.
-/

namespace RecordMapper.Clause

variable {d : Dialect} {table : String} {columns : List String} {f : Fragment}

@[simp]
theorem commas_singleton (s : String) : commas [s] = s :=
  String.intercalate_singleton

theorem commas_cons_cons (s t : String) (ss : List String) :
    commas (s :: t :: ss) = s ++ ", " ++ commas (t :: ss) :=
  String.intercalate_cons_cons

theorem render_eq_ok_iff {c : Clause} : c.render d = .ok f ↔ c.fragment d = .ok f := by
  refine ⟨fragment_of_render, fun h => ?_⟩
  rw [render, h]

theorem quoteTable_eq_ok_iff {t : String} :
    quoteTable d table = .ok t ↔ table ≠ "" ∧ d.quoteName table = t := by
  unfold quoteTable
  split <;> simp [*]

theorem quoteColumns_eq_ok_iff {cs : String} :
    quoteColumns d columns = .ok cs ↔
      columns ≠ [] ∧ "" ∉ columns ∧ commas (columns.map d.quoteName) = cs := by
  unfold quoteColumns
  split
  · next h =>
    refine ⟨nofun, fun ⟨hn, he, _⟩ => ?_⟩
    exact absurd h (not_or.2 ⟨hn, he⟩)
  · next h =>
    obtain ⟨hn, he⟩ := not_or.1 h
    simp [hn, he]

/-- A clause of a table and nothing else renders where the table has a name. -/
theorem with_table_iff (g : String → Fragment) :
    (do let t ← quoteTable d table; return g t) = Except.ok f ↔
      table ≠ "" ∧ f = g (d.quoteName table) := by
  simp only [bind_eq_ok_iff, quoteTable_eq_ok_iff]
  constructor
  · rintro ⟨t, ⟨ht, rfl⟩, h⟩
    exact ⟨ht, (Except.ok.inj h).symm⟩
  · rintro ⟨ht, rfl⟩
    exact ⟨_, ⟨ht, rfl⟩, rfl⟩

/-- A clause of a table with columns renders where all have names. -/
theorem with_columns_iff (g : String → String → Fragment) :
    (do let t ← quoteTable d table; let cs ← quoteColumns d columns; return g t cs) =
        Except.ok f ↔
      table ≠ "" ∧ columns ≠ [] ∧ "" ∉ columns ∧
        f = g (d.quoteName table) (commas (columns.map d.quoteName)) := by
  simp only [bind_eq_ok_iff, quoteTable_eq_ok_iff, quoteColumns_eq_ok_iff]
  constructor
  · rintro ⟨t, ⟨ht, rfl⟩, cs, ⟨hn, he, rfl⟩, h⟩
    exact ⟨ht, hn, he, (Except.ok.inj h).symm⟩
  · rintro ⟨ht, hn, he, rfl⟩
    exact ⟨_, ⟨ht, rfl⟩, _, ⟨hn, he, rfl⟩, rfl⟩

theorem fragment_insert :
    (insert table columns).fragment d = .ok f ↔
      table ≠ "" ∧ columns ≠ [] ∧ "" ∉ columns ∧
        f = ⟨"INSERT INTO " ++ d.quoteName table ++ " (" ++
          commas (columns.map d.quoteName) ++ ")", []⟩ :=
  with_columns_iff fun t cs => ⟨"INSERT INTO " ++ t ++ " (" ++ cs ++ ")", []⟩

theorem fragment_select :
    (select table columns).fragment d = .ok f ↔
      table ≠ "" ∧ columns ≠ [] ∧ "" ∉ columns ∧
        f = ⟨"SELECT " ++ commas (columns.map d.quoteName) ++ " FROM " ++ d.quoteName table,
          []⟩ :=
  with_columns_iff fun t cs => ⟨"SELECT " ++ cs ++ " FROM " ++ t, []⟩

theorem fragment_count :
    (count table).fragment d = .ok f ↔
      table ≠ "" ∧ f = ⟨"SELECT COUNT(*) FROM " ++ d.quoteName table, []⟩ :=
  with_table_iff fun t => ⟨"SELECT COUNT(*) FROM " ++ t, []⟩

theorem fragment_delete :
    (delete table).fragment d = .ok f ↔
      table ≠ "" ∧ f = ⟨"DELETE FROM " ++ d.quoteName table, []⟩ :=
  with_table_iff fun t => ⟨"DELETE FROM " ++ t, []⟩

/-- Tuples are written if there are some, all of one width other than zero. -/
theorem fragment_values {rows : List (List Value)} :
    (values rows).fragment d = .ok f ↔
      rows ≠ [] ∧ ∃ width, width ≠ 0 ∧ (∀ row ∈ rows, row.length = width) ∧
        f = ⟨"VALUES " ++ commas (List.replicate rows.length (tuple width)), rows.flatten⟩ := by
  constructor
  · intro h
    simp only [fragment] at h
    split at h
    · cases h
    · next hw =>
      split at h
      · cases h
      · next hany =>
        have hall : ∀ row ∈ rows, row.length = (rows.headD []).length := by simpa using hany
        refine ⟨?_, (rows.headD []).length, hw, hall, (Except.ok.inj h).symm⟩
        rintro rfl
        exact hw rfl
  · rintro ⟨hn, width, hw, hall, rfl⟩
    have hhead : (rows.headD []).length = width := by
      cases rows with
      | nil => exact absurd rfl hn
      | cons row rows => exact hall row List.mem_cons_self
    have hany : (rows.any fun row => row.length != width) = false := by simpa using hall
    simp only [fragment, hhead, hw, hany, if_false, Bool.false_eq_true]

theorem fragment_filter {condition : String} {params : List Value} :
    (filter condition params).fragment d = .ok f ↔
      Text.trim condition ≠ "" ∧ Placeholder.count (Text.trim condition) = params.length ∧
        f = ⟨"WHERE " ++ Text.trim condition, params⟩ := by
  simp only [fragment]
  split
  · next hc => simp [hc]
  · next hc =>
    split
    · next hn => simp [hn]
    · next hn => simp [hc, Decidable.not_not.1 hn, eq_comm]

theorem fragment_order {ordering : String} :
    (order ordering).fragment d = .ok f ↔
      Text.trim ordering ≠ "" ∧ f = ⟨"ORDER BY " ++ Text.trim ordering, []⟩ := by
  simp only [fragment]
  split
  · next ho => simp [ho]
  · next ho => simp [ho, eq_comm]

theorem fragment_limit {n : Bounded .u64} :
    (limit n).fragment d = .ok f ↔ ∃ i, n.cast? .i64 = some i ∧ f = ⟨"LIMIT ?", [.integer i]⟩ := by
  simp only [fragment]
  split <;> simp [*, eq_comm]

theorem fragment_update {assignments : List (String × Value)} :
    (update table assignments).fragment d = .ok f ↔
      table ≠ "" ∧ assignments ≠ [] ∧ "" ∉ assignments.map (·.1) ∧
        f = ⟨"UPDATE " ++ d.quoteName table ++ " SET " ++
          commas (assignments.map fun a => d.quoteName a.1 ++ " = ?"),
          assignments.map (·.2)⟩ := by
  simp only [fragment, bind_eq_ok_iff, quoteTable_eq_ok_iff]
  constructor
  · rintro ⟨t, ⟨ht, rfl⟩, h⟩
    split at h
    · cases h
    · next hn =>
      split at h
      · cases h
      · next he => exact ⟨ht, hn, he, (Except.ok.inj h).symm⟩
  · rintro ⟨ht, hn, he, rfl⟩
    refine ⟨_, ⟨ht, rfl⟩, ?_⟩
    rw [if_neg hn, if_neg he]
    rfl

/-! ## The texts of operations -/

/-- The text that names the columns of a table that tuples are inserted into. -/
def insertHead (d : Dialect) (table : String) (columns : List String) : String :=
  "INSERT INTO " ++ d.quoteName table ++ " (" ++ commas (columns.map d.quoteName) ++ ")"

/-- The text that inserts tuples into some columns of a table. -/
def insertText (d : Dialect) (table : String) (columns : List String) (tuples : Nat) : String :=
  insertHead d table columns ++ " VALUES " ++
    commas (List.replicate tuples (tuple columns.length))

/-- The text that selects some columns of a table. -/
def selectText (d : Dialect) (table : String) (columns : List String) : String :=
  "SELECT " ++ commas (columns.map d.quoteName) ++ " FROM " ++ d.quoteName table

/-- The text that assigns to some columns of a table. -/
def updateText (d : Dialect) (table : String) (columns : List String) : String :=
  "UPDATE " ++ d.quoteName table ++ " SET " ++ commas (columns.map fun c => d.quoteName c ++ " = ?")

/-- The text that deletes the rows of a table. -/
def deleteText (d : Dialect) (table : String) : String :=
  "DELETE FROM " ++ d.quoteName table

/-- The text that counts the rows of a table. -/
def countText (d : Dialect) (table : String) : String :=
  "SELECT COUNT(*) FROM " ++ d.quoteName table

theorem render_insert (ht : table ≠ "") (hn : columns ≠ []) (hc : "" ∉ columns) :
    (insert table columns).render d = .ok ⟨insertHead d table columns, []⟩ :=
  render_eq_ok_iff.2 (fragment_insert.2 ⟨ht, hn, hc, rfl⟩)

theorem render_select (ht : table ≠ "") (hn : columns ≠ []) (hc : "" ∉ columns) :
    (select table columns).render d = .ok ⟨selectText d table columns, []⟩ :=
  render_eq_ok_iff.2 (fragment_select.2 ⟨ht, hn, hc, rfl⟩)

theorem render_update (ht : table ≠ "") {assignments : List (String × Value)}
    (hn : assignments ≠ []) (hc : "" ∉ assignments.map (·.1)) :
    (update table assignments).render d =
      .ok ⟨updateText d table (assignments.map (·.1)), assignments.map (·.2)⟩ := by
  rw [updateText, List.map_map]
  exact render_eq_ok_iff.2 (fragment_update.2 ⟨ht, hn, hc, rfl⟩)

theorem render_delete (ht : table ≠ "") :
    (delete table).render d = .ok ⟨deleteText d table, []⟩ :=
  render_eq_ok_iff.2 (fragment_delete.2 ⟨ht, rfl⟩)

theorem render_count (ht : table ≠ "") : (count table).render d = .ok ⟨countText d table, []⟩ :=
  render_eq_ok_iff.2 (fragment_count.2 ⟨ht, rfl⟩)

theorem render_values {rows : List (List Value)} {width : Nat} (hn : rows ≠ []) (hw : width ≠ 0)
    (h : ∀ row ∈ rows, row.length = width) :
    (values rows).render d =
      .ok ⟨"VALUES " ++ commas (List.replicate rows.length (tuple width)), rows.flatten⟩ :=
  render_eq_ok_iff.2 (fragment_values.2 ⟨hn, width, hw, h, rfl⟩)

/-- An INSERT clause with tuples behind it. -/
theorem ofFragments_insert (tuples : Nat) (params : List Value) :
    Statement.ofFragments [⟨insertHead d table columns, []⟩,
        ⟨"VALUES " ++ commas (List.replicate tuples (tuple columns.length)), params⟩] =
      ⟨insertText d table columns tuples, params⟩ := by
  have hjoin : " " ++ "VALUES " = " VALUES " := by decide
  rw [Statement.ofFragments_pair, insertText, ← hjoin]
  simp only [String.append_assoc, List.nil_append]

/-! ## Rows of one width -/

theorem length_flatten_of_width {α : Type} {rows : List (List α)} {width : Nat}
    (h : ∀ row ∈ rows, row.length = width) : rows.flatten.length = rows.length * width := by
  induction rows with
  | nil => simp
  | cons row rows ih =>
    obtain ⟨hr, hrs⟩ := List.forall_mem_cons.1 h
    rw [List.flatten_cons, List.length_append, hr, ih hrs, List.length_cons, Nat.succ_mul,
      Nat.add_comm]

theorem getElem?_flatten_of_width {α : Type} {rows : List (List α)} {width : Nat}
    (h : ∀ row ∈ rows, row.length = width) {i j : Nat} {row : List α} (hrow : rows[i]? = some row)
    {x : α} (hx : row[j]? = some x) : rows.flatten[i * width + j]? = some x := by
  induction rows generalizing i with
  | nil => cases hrow
  | cons first rows ih =>
    obtain ⟨hfirst, hrows⟩ := List.forall_mem_cons.1 h
    rw [List.flatten_cons]
    cases i with
    | zero =>
      cases hrow
      have hj : j < row.length := (List.getElem?_eq_some_iff.1 hx).1
      rw [Nat.zero_mul, Nat.zero_add, List.getElem?_append_left hj, hx]
    | succ i =>
      have hpast : (i + 1) * width + j = first.length + (i * width + j) := by
        rw [hfirst, Nat.succ_mul]
        omega
      rw [hpast, List.getElem?_append_right (Nat.le_add_right _ _), Nat.add_sub_cancel_left]
      exact ih hrows hrow

theorem splitLengths_flatten {α : Type} {width : Nat} {rows : List (List α)}
    (h : ∀ row ∈ rows, row.length = width) :
    (List.replicate rows.length width).splitLengths rows.flatten = rows := by
  induction rows with
  | nil => rfl
  | cons row rows ih =>
    obtain ⟨hrow, hrows⟩ := List.forall_mem_cons.1 h
    rw [List.length_cons, List.replicate_succ, List.splitLengths_cons, List.flatten_cons,
      List.take_left' hrow, List.drop_left' hrow, ih hrows]

end RecordMapper.Clause
