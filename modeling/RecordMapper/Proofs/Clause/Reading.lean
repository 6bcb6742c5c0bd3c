import Mathlib.Data.List.Basic
import RecordMapper.Proofs.Clause.Fragment
import RecordMapper.Store.Token

/-!
# Reading clauses back

Where names are quoted, a fragment tells which clause it was written for: the opening words tell the
kind, every quoted name ends at the first quote that is not doubled, and behind it only a comma goes
on with a list. The reader here inverts `Clause.render`, except that the blanks around a condition
or an ordering are not written and not read. So no two clauses have the same fragment, however their
names are spelled.
-/

namespace RecordMapper.Clause

open Placeholder

/-- The clause as it is written, without the blanks around a condition or an ordering. -/
def trimmed : Clause → Clause
  | filter condition params => .filter (Text.trim condition) params
  | order ordering => .order (Text.trim ordering)
  | c => c

/-! ## Readers -/

/-- Reads something from the start of a text. -/
abbrev Reader := StateT (List Char) Option

namespace Reader

variable {α β : Type}

/-- Exactly this text. -/
def text (s : String) : Reader Unit := fun cs =>
  (s.toList.isPrefixOf? cs).map ((), ·)

/-- Everything that is left. -/
def remainder : Reader String := fun cs =>
  some (String.ofList cs, [])

/-- A name between quotes. -/
def name (q : Char) : Reader String := do
  text (String.singleton q)
  let s ← Store.Token.quoted? q
  return String.ofList s

/-- The column that an assignment is to. -/
def assignment (q : Char) : Reader String := do
  let column ← name q
  text " = ?"
  return column

/-- One or more of what `r` reads, separated by commas. -/
def list (r : Reader α) (cs : List Char) : Option (List α × List Char) :=
  match r cs with
  | none => none
  | some (a, rest) =>
    match text ", " rest with
    | none => some ([a], rest)
    | some ((), behind) =>
      if behind.length < cs.length then (list r behind).map fun as => (a :: as.1, as.2) else none
termination_by cs.length

/-- A step reads on where the one before it stopped. -/
theorem bind_eq {r : Reader α} {next : α → Reader β} {a : α} {cs rest : List Char}
    (h : r cs = some (a, rest)) : (r >>= next) cs = next a rest := by
  change (r cs).bind (fun p => next p.1 p.2) = _
  rw [h]
  rfl

theorem text_append (s : String) (rest : List Char) :
    text s (s.toList ++ rest) = some ((), rest) := by
  rw [text, List.isPrefixOf?_eq_some_iff_append_eq.2 rfl]
  rfl

/-- Behind a doubled text a quote ends the name, unless another one follows. -/
theorem quoted?_double {q : Char} (cs : List Char) {rest : List Char}
    (hrest : rest.head? ≠ some q) :
    Store.Token.quoted? q (Text.double q cs ++ q :: rest) = some (cs, rest) := by
  induction cs with
  | nil =>
    cases rest with
    | nil => simp [Text.double, Store.Token.quoted?]
    | cons c rest =>
      have hc : c ≠ q := by simpa using hrest
      simp [Text.double, Store.Token.quoted?, hc]
  | cons c cs ih =>
    by_cases hc : c = q
    · simp [Text.double, Store.Token.quoted?, hc, ih]
    · -- whether the name goes on or ends here, another character follows
      obtain ⟨b, bs, hb⟩ := List.exists_cons_of_ne_nil
        (List.append_ne_nil_of_right_ne_nil (Text.double q cs) (List.cons_ne_nil q rest))
      rw [Text.double, if_neg hc, List.cons_append, hb, Store.Token.quoted?, if_neg hc, ← hb, ih]
      rfl

theorem name_enclose {q : Char} (s : String) {rest : List Char} (hrest : rest.head? ≠ some q) :
    name q ((Text.enclose q s).toList ++ rest) = some (s, rest) := by
  have hquote : (Text.enclose q s).toList ++ rest =
      (String.singleton q).toList ++ (Text.double q s.toList ++ q :: rest) := by
    simp [Text.toList_enclose]
  rw [hquote, name, bind_eq (text_append _ _), bind_eq (quoted?_double _ hrest),
    String.ofList_toList]
  rfl

theorem name_enclose_end {q : Char} (s : String) :
    name q (Text.enclose q s).toList = some (s, []) := by
  have hend : ([] : List Char).head? ≠ some q := by simp
  have hname := name_enclose s hend
  rwa [List.append_nil] at hname

theorem assignment_append {q : Char} (s : String) {rest : List Char} (hq : q ≠ ' ') :
    assignment q ((Text.enclose q s ++ " = ?").toList ++ rest) = some (s, rest) := by
  have hspace : (" = ?".toList ++ rest).head? ≠ some q := by simpa using hq.symm
  rw [String.toList_append, List.append_assoc, assignment, bind_eq (name_enclose s hspace),
    bind_eq (text_append _ _)]
  rfl

theorem list_last {r : Reader α} {a : α} {cs rest : List Char} (h : r cs = some (a, rest))
    (hcomma : rest.head? ≠ some ',') : list r cs = some ([a], rest) := by
  have hend : text ", " rest = none := by
    cases rest with
    | nil => rfl
    | cons c rest =>
      have hc : c ≠ ',' := by simpa using hcomma
      simp [text, List.isPrefixOf?, hc.symm]
  rw [list, h]
  simp only [hend]

theorem list_more {r : Reader α} {a : α} {as : List α} {cs behind rest : List Char}
    (h : r cs = some (a, ", ".toList ++ behind)) (hlength : behind.length < cs.length)
    (hmore : list r behind = some (as, rest)) : list r cs = some (a :: as, rest) := by
  rw [list, h]
  simp only [text_append, hlength, if_true, hmore]
  rfl

/-- A list is read back if each item is, where the item is not followed by a quote. -/
theorem list_commas {r : Reader α} {write : α → String} {q : Char} (hq : q ≠ ',')
    (hr : ∀ a rest, rest.head? ≠ some q → r ((write a).toList ++ rest) = some (a, rest))
    {rest : List Char} (hrest : rest.head? ≠ some q) (hcomma : rest.head? ≠ some ',')
    {as : List α} (has : as ≠ []) :
    list r ((commas (as.map write)).toList ++ rest) = some (as, rest) := by
  induction as with
  | nil => exact absurd rfl has
  | cons a as ih =>
    cases as with
    | nil =>
      rw [List.map_singleton, commas_singleton]
      exact list_last (hr a rest hrest) hcomma
    | cons b bs =>
      rw [List.map_cons, List.map_cons, commas_cons_cons, String.toList_append,
        String.toList_append, List.append_assoc, List.append_assoc]
      refine list_more (hr a _ (by simpa using hq.symm)) ?_ (ih (List.cons_ne_nil b bs))
      have hsep : ", ".toList.length = 2 := rfl
      simp only [List.length_append, hsep]
      omega

end Reader

/-! ## The reader of fragments -/

/-- The words that a clause of this kind begins with. -/
def Kind.opening : Kind → String
  | insert => "INSERT INTO "
  | values => "VALUES "
  | select => "SELECT "
  | count => "SELECT COUNT(*) FROM "
  | filter => "WHERE "
  | order => "ORDER BY "
  | limit => "LIMIT "
  | update => "UPDATE "
  | delete => "DELETE FROM "

/-- The kind that the first words tell, and what follows them. Only the opening of a count begins
with that of another kind and is tried before it. -/
def opened? (cs : List Char) : Option (Kind × List Char) :=
  [Kind.count, .select, .insert, .values, .filter, .order, .limit, .update, .delete].findSome?
    fun k => (k.opening.toList.isPrefixOf? cs).map (k, ·)

/-- What follows the opening of a clause. There are as many tuples as opening parentheses, and the
parameters are dealt out among them in equal parts. -/
def body (q : Char) (params : List Value) : Kind → Reader Clause
  | .insert => do
    let table ← Reader.name q
    Reader.text " ("
    let columns ← Reader.list (Reader.name q)
    return .insert table columns
  | .values => do
    let tuples := (← Reader.remainder).toList.count '('
    return .values ((List.replicate tuples (params.length / tuples)).splitLengths params)
  | .select => do
    let columns ← Reader.list (Reader.name q)
    Reader.text " FROM "
    return .select (← Reader.name q) columns
  | .count => return .count (← Reader.name q)
  | .filter => return .filter (← Reader.remainder) params
  | .order => return .order (← Reader.remainder)
  | .limit =>
    match params with
    | [.integer i] => liftM ((i.cast? .u64).map limit)
    | _ => failure
  | .update => do
    let table ← Reader.name q
    Reader.text " SET "
    let columns ← Reader.list (Reader.assignment q)
    return .update table (columns.zip params)
  | .delete => return .delete (← Reader.name q)

/-- The clause that a fragment was written for, where names are quoted with `q`. -/
def read? (q : Char) (f : Fragment) : Option Clause := do
  let (k, cs) ← opened? f.sql.toList
  (body q f.params k).run' cs

theorem opened?_append {k : Kind} {cs : List Char} (h : k = .select → cs.head? ≠ some 'C') :
    opened? (k.opening.toList ++ cs) = some (k, cs) := by
  cases k with
  | select =>
    cases cs with
    | nil => rfl
    | cons c cs =>
      have hc : 'C' ≠ c := by simpa [eq_comm] using h rfl
      simp [opened?, Kind.opening, List.isPrefixOf?, hc]
  | _ => rfl

theorem read?_of_body {q : Char} {f : Fragment} {k : Kind} {cs rest : List Char} {c : Clause}
    (h : body q f.params k cs = some (c, rest)) (hsql : f.sql.toList = k.opening.toList ++ cs)
    (hk : k = .select → cs.head? ≠ some 'C') : read? q f = some c := by
  rw [read?, hsql, opened?_append hk]
  change (body q f.params k cs).map Prod.fst = some c
  rw [h]
  rfl

section

variable {q : Char}

theorem head?_append_ne (hq : isQuote q) {s : String}
    (hs : s.toList.head?.any fun c => !isQuote c) (rest : List Char) :
    (s.toList ++ rest).head? ≠ some q := by
  cases h : s.toList with
  | nil => simp [h] at hs
  | cons c cs =>
    rintro ⟨⟩
    simp [h, hq] at hs

theorem head?_commas_enclose {names : List String} (hn : names ≠ []) (rest : List Char) :
    ((commas (names.map (Text.enclose q))).toList ++ rest).head? = some q := by
  cases names with
  | nil => exact absurd rfl hn
  | cons a names =>
    cases names <;> simp [commas_cons_cons, Text.toList_enclose]

theorem ne_comma_of_isQuote (hq : isQuote q) : q ≠ ',' := by
  rintro rfl
  exact absurd hq (by decide)

theorem list_names (hq : isQuote q) {names : List String} (hn : names ≠ []) {rest : List Char}
    (hrest : rest.head? ≠ some q) (hcomma : rest.head? ≠ some ',') :
    Reader.list (Reader.name q) ((commas (names.map (Text.enclose q))).toList ++ rest) =
      some (names, rest) :=
  Reader.list_commas (ne_comma_of_isQuote hq) (fun a _ => Reader.name_enclose a) hrest hcomma hn

theorem body_table {k : Kind} {build : String → Clause} {params : List Value}
    (hk : body q params k = (do return build (← Reader.name q))) (table : String) :
    body q params k (Text.enclose q table).toList = some (build table, []) := by
  rw [hk, Reader.bind_eq (Reader.name_enclose_end table)]
  rfl

theorem body_text {k : Kind} {build : String → Clause} {params : List Value}
    (hk : body q params k = (do return build (← Reader.remainder))) (s : String) :
    body q params k s.toList = some (build s, []) := by
  rw [hk, Reader.bind_eq rfl, String.ofList_toList]
  rfl

theorem body_limit {n : Bounded .u64} {i : Integer64} (h : n.cast? .i64 = some i)
    (cs : List Char) : body q [.integer i] .limit cs = some (.limit n, cs) := by
  have hval : i.val = n.val := Bounded.ofInt?_eq_some_iff.1 h
  have hcast : i.cast? .u64 = some n := Bounded.ofInt?_eq_some_iff.2 hval.symm
  simp only [body, hcast]
  rfl

theorem body_insert (hq : isQuote q) (params : List Value) (table : String) {columns : List String}
    (hn : columns ≠ []) :
    body q params .insert ((Text.enclose q table).toList ++ (" (".toList ++
      ((commas (columns.map (Text.enclose q))).toList ++ (")".toList ++ [])))) =
        some (.insert table columns, ")".toList) := by
  have hparen := head?_append_ne hq (s := ")") (by decide) []
  rw [body, Reader.bind_eq (Reader.name_enclose table (head?_append_ne hq (by decide) _)),
    Reader.bind_eq (Reader.text_append _ _), Reader.bind_eq (list_names hq hn hparen (by decide))]
  rfl

theorem body_select (hq : isQuote q) (params : List Value) (table : String) {columns : List String}
    (hn : columns ≠ []) :
    body q params .select ((commas (columns.map (Text.enclose q))).toList ++ (" FROM ".toList ++
      (Text.enclose q table).toList)) = some (.select table columns, []) := by
  have hfrom := head?_append_ne hq (s := " FROM ") (by decide) (Text.enclose q table).toList
  rw [body, Reader.bind_eq (list_names hq hn hfrom (by simp)),
    Reader.bind_eq (Reader.text_append _ _), Reader.bind_eq (Reader.name_enclose_end table)]
  rfl

theorem body_update (hq : isQuote q) (table : String) {assignments : List (String × Value)}
    (hn : assignments ≠ []) :
    body q (assignments.map (·.2)) .update ((Text.enclose q table).toList ++ (" SET ".toList ++
      ((commas ((assignments.map (·.1)).map fun s => Text.enclose q s ++ " = ?")).toList ++ []))) =
        some (.update table assignments, []) := by
  have hend : ([] : List Char).head? ≠ some q := by simp
  have hspace : q ≠ ' ' := by
    rintro rfl
    exact absurd hq (by decide)
  have hnames : assignments.map (·.1) ≠ [] := by simpa using hn
  have hzip : (assignments.map (·.1)).zip (assignments.map (·.2)) = assignments :=
    (List.zip_of_prod rfl rfl).symm
  have hlist := Reader.list_commas (ne_comma_of_isQuote hq)
    (fun a _ _ => Reader.assignment_append a hspace) hend (by simp) hnames
  rw [body, Reader.bind_eq (Reader.name_enclose table (head?_append_ne hq (by decide) _)),
    Reader.bind_eq (Reader.text_append _ _), Reader.bind_eq hlist, hzip]
  rfl

/-- The character is counted in each of the texts and not between them. -/
theorem count_commas {c : Char} {s : String} {n : Nat} (hc : ", ".toList.count c = 0) (k : Nat)
    (hs : s.toList.count c = n) : (commas (List.replicate k s)).toList.count c = k * n := by
  induction k with
  | zero => simp [commas]
  | succ k ih =>
    cases k with
    | zero => simpa [commas] using hs
    | succ k =>
      have hsplit : commas (List.replicate (k + 2) s) =
          s ++ ", " ++ commas (List.replicate (k + 1) s) :=
        commas_cons_cons s s (List.replicate k s)
      rw [hsplit, String.toList_append, String.toList_append, List.count_append,
        List.count_append, hs, hc, ih, Nat.succ_mul (k + 1), Nat.add_zero, Nat.add_comm]

theorem body_values {rows : List (List Value)} (hn : rows ≠ []) {width : Nat}
    (hw : ∀ row ∈ rows, row.length = width) :
    body q rows.flatten .values (commas (List.replicate rows.length (tuple width))).toList =
      some (.values rows, []) := by
  have htuple : (tuple width).toList.count '(' = 1 := by
    have hmarks := count_commas (c := '(') (s := "?") (by decide) width (n := 0) (by decide)
    simp [tuple, hmarks]
  have htuples := count_commas (by decide) rows.length htuple
  have hdiv : rows.flatten.length / rows.length = width := by
    rw [length_flatten_of_width hw]
    exact Nat.mul_div_cancel_left _ (List.length_pos_iff.2 hn)
  rw [body, Reader.bind_eq rfl, String.toList_ofList, htuples, Nat.mul_one, hdiv,
    splitLengths_flatten hw]
  rfl

end

section

variable {d : Dialect} {q : Char}

theorem isQuote_of_quote? (hd : d.quote? = some q) : isQuote q := by
  cases d <;> cases hd <;> rfl

theorem exists_quote (hd : d ≠ .generic) : ∃ q, d.quote? = some q := by
  cases d with
  | generic => exact absurd rfl hd
  | sqlite | mysql => exact ⟨_, rfl⟩

theorem quoteName_of_quote? (hd : d.quote? = some q) : d.quoteName = Text.enclose q := by
  funext s
  rw [Dialect.quoteName, hd]

/-- Where names are quoted, every fragment is read back as the clause that it was written for. -/
theorem read?_of_render (hd : d.quote? = some q) {c : Clause} {f : Fragment}
    (h : c.render d = .ok f) : read? q f = some c.trimmed := by
  have hq := isQuote_of_quote? hd
  have hname := quoteName_of_quote? hd
  have h := fragment_of_render h
  cases c with
  | insert table columns =>
    obtain ⟨-, hn, -, rfl⟩ := fragment_insert.1 h
    exact read?_of_body (body_insert hq [] table hn) (by simp [hname, Kind.opening]) nofun
  | values rows =>
    obtain ⟨hn, width, -, hw, rfl⟩ := fragment_values.1 h
    exact read?_of_body (body_values hn hw) (by simp [Kind.opening]) nofun
  | select table columns =>
    obtain ⟨-, hn, -, rfl⟩ := fragment_select.1 h
    refine read?_of_body (body_select hq [] table hn) (by simp [hname, Kind.opening]) fun _ => ?_
    rw [head?_commas_enclose hn]
    rintro ⟨⟩
    exact absurd hq (by decide)
  | count table =>
    obtain ⟨-, rfl⟩ := fragment_count.1 h
    exact read?_of_body (body_table (k := .count) rfl table) (by simp [hname, Kind.opening]) nofun
  | filter condition params =>
    obtain ⟨-, -, rfl⟩ := fragment_filter.1 h
    exact read?_of_body (body_text (k := .filter) rfl _) (by simp [Kind.opening]) nofun
  | order ordering =>
    obtain ⟨-, rfl⟩ := fragment_order.1 h
    exact read?_of_body (body_text (k := .order) rfl _) (by simp [Kind.opening]) nofun
  | limit n =>
    obtain ⟨i, hi, rfl⟩ := fragment_limit.1 h
    exact read?_of_body (body_limit hi ['?']) (by simp [Kind.opening]) nofun
  | update table assignments =>
    obtain ⟨-, hn, -, rfl⟩ := fragment_update.1 h
    exact read?_of_body (body_update hq table hn)
      (by simp [hname, Kind.opening, Function.comp_def]) nofun
  | delete table =>
    obtain ⟨-, rfl⟩ := fragment_delete.1 h
    exact read?_of_body (body_table (k := .delete) rfl table) (by simp [hname, Kind.opening]) nofun

/-- Rendering loses nothing, and no name forges another clause. Where names are quoted, clauses of
any kinds with the same fragment are the same clause, but for the blanks around a condition or an
ordering. -/
theorem trimmed_eq_of_render_eq (hd : d ≠ .generic) {b c : Clause} {f : Fragment}
    (hb : b.render d = .ok f) (hc : c.render d = .ok f) : b.trimmed = c.trimmed := by
  obtain ⟨q, hq⟩ := exists_quote hd
  have hread := read?_of_render hq hb
  rw [read?_of_render hq hc] at hread
  exact (Option.some.inj hread).symm

/-- Two conditions that differ in blanks alone, with a parameter that looks like a condition. -/
theorem trimmed_eq_of_render_eq_filters :
    let b := filter "name = ?\n" [.text "' OR '1' = '1"]
    let c := filter " name = ?" [.text "' OR '1' = '1"]
    b ≠ c ∧ b.trimmed = c.trimmed := by
  intro b c
  have hb : b.render .mysql = .ok ⟨"WHERE name = ?", [.text "' OR '1' = '1"]⟩ := rfl
  have hc : c.render .mysql = .ok ⟨"WHERE name = ?", [.text "' OR '1' = '1"]⟩ := rfl
  exact ⟨by decide, trimmed_eq_of_render_eq (by decide) hb hc⟩

/-- One column with quotes in its name is not written like two columns. -/
example : (insert "t" ["a\", \"b"]).render .sqlite ≠ (insert "t" ["a", "b"]).render .sqlite := by
  decide

end

end RecordMapper.Clause
