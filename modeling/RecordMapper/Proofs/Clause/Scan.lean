import RecordMapper.Proofs.Clause.Fragment

/-!
# Scanning written clauses

How `Placeholder.scan` crosses the text of clauses. A text that `Adds n` counts for `n` placeholders
and leaves the scan in plain text whatever follows it, so such texts compose. Quoted names, lists of
them and everything that a clause writes of its own are of this kind; only conditions and orderings,
which are given as text, may leave quoted text or a comment open.
-/

namespace RecordMapper

namespace Clause.Placeholder

/-- Before any text, `s` adds `n` placeholders, and what follows it is scanned as plain text. -/
def Adds (n : Nat) (s : String) : Prop :=
  ∀ rest, scan .plain (s.toList ++ rest) = ((scan .plain rest).1 + n, (scan .plain rest).2)

/-- The text ends within quoted text or a comment, which what follows runs on into. -/
def Open (s : String) : Prop :=
  (scan .plain s.toList).2 ≠ .plain

instance (s : String) : Decidable (Open s) :=
  inferInstanceAs (Decidable (_ ≠ _))

/-- The characters that are neither placeholders nor begin quoted text or a comment. -/
def isOrdinary (c : Char) : Bool :=
  c != '-' && c != '/' && c != '?' && !isQuote c

theorem scan_ordinary {c : Char} (hc : isOrdinary c) (cs : List Char) :
    scan .plain (c :: cs) = scan .plain cs := by
  simp only [isOrdinary, Bool.and_eq_true, bne_iff_ne, ne_eq, Bool.not_eq_eq_eq_not,
    Bool.not_true] at hc
  obtain ⟨⟨⟨hd, hs⟩, hm⟩, hq⟩ := hc
  simp [scan, hd, hs, hm, hq]

theorem scan_mark (cs : List Char) :
    scan .plain ('?' :: cs) = ((scan .plain cs).1 + 1, (scan .plain cs).2) := by
  simp [scan]

theorem scan_quote {q : Char} (hq : isQuote q) (cs : List Char) :
    scan .plain (q :: cs) = scan (.quoted q) cs := by
  simp only [isQuote, Bool.or_eq_true, beq_iff_eq] at hq
  rcases hq with (rfl | rfl) | rfl <;> simp [scan, isQuote]

theorem scan_close (q : Char) (cs : List Char) : scan (.quoted q) (q :: cs) = scan .plain cs := by
  simp [scan]

theorem Adds.count {n : Nat} {s : String} (h : Adds n s) : count s = n := by
  have hs := h []
  rw [List.append_nil] at hs
  simp [Placeholder.count, hs, scan]

theorem Adds.count_append {n : Nat} {s : String} (h : Adds n s) (t : String) :
    Placeholder.count (s ++ t) = n + Placeholder.count t := by
  rw [Placeholder.count, String.toList_append, h t.toList, Nat.add_comm]
  rfl

theorem Adds.append {m n : Nat} {s t : String} (hs : Adds m s) (ht : Adds n t) :
    Adds (m + n) (s ++ t) := by
  intro rest
  rw [String.toList_append, List.append_assoc, hs, ht]
  exact Prod.ext (by simp only; omega) rfl

/-- Ordinary characters and question marks add what the marks count for. -/
theorem adds_of_chars {s : String} (h : s.toList.all fun c => isOrdinary c || c == '?') :
    Adds (s.toList.count '?') s := by
  unfold Adds
  generalize s.toList = cs at h
  intro rest
  induction cs with
  | nil => rfl
  | cons c cs ih =>
    simp only [List.all_cons, Bool.and_eq_true, Bool.or_eq_true, beq_iff_eq] at h
    have ih := ih h.2
    rcases h.1 with hc | rfl
    · have hm : c ≠ '?' := by
        rintro rfl
        exact absurd hc (by decide)
      rw [List.cons_append, scan_ordinary hc, ih, List.count_cons_of_ne hm]
    · rw [List.cons_append, scan_mark, ih, List.count_cons_self]
      exact Prod.ext (by simp only; omega) rfl

theorem adds_text {s : String} (h : s.toList.all isOrdinary) : Adds 0 s := by
  have hall : s.toList.all fun c => isOrdinary c || c == '?' :=
    List.all_eq_true.2 fun c hc => by simp [List.all_eq_true.1 h c hc]
  have hcount : s.toList.count '?' = 0 :=
    List.count_eq_zero.2 fun hm => absurd (List.all_eq_true.1 h _ hm) (by decide)
  exact hcount ▸ adds_of_chars hall

theorem adds_marked {n : Nat} {s : String}
    (h : (s.toList.all fun c => isOrdinary c || c == '?') ∧ s.toList.count '?' = n) : Adds n s :=
  h.2 ▸ adds_of_chars h.1

/-! ## Quoted names -/

theorem scan_double {q : Char} (hq : isQuote q) (cs rest : List Char) :
    scan (.quoted q) (Text.double q cs ++ q :: rest) = scan .plain rest := by
  induction cs with
  | nil => exact scan_close q rest
  | cons c cs ih =>
    by_cases hc : c = q
    · -- the doubled quote closes the quoted text and opens it again
      rw [Text.double, if_pos hc, List.cons_append, List.cons_append, scan_close, scan_quote hq]
      exact ih
    · simpa [Text.double, hc, scan] using ih

theorem adds_enclose {q : Char} (hq : isQuote q) (s : String) : Adds 0 (Text.enclose q s) := by
  intro rest
  rw [Text.toList_enclose, List.cons_append, List.append_assoc, scan_quote hq,
    List.cons_append, List.nil_append, scan_double hq]
  rfl

theorem adds_quoteName {d : Dialect} (hd : d ≠ .generic) (s : String) : Adds 0 (d.quoteName s) := by
  cases d with
  | generic => exact absurd rfl hd
  | sqlite => exact adds_enclose (by decide) s
  | mysql => exact adds_enclose (by decide) s

/-! ## Lists -/

/-- Texts joined by a separator without placeholders add what they add together. -/
theorem adds_intercalate {α β : Type} {sep : String} (hsep : Adds 0 sep) {as : List α}
    {f : α → String} {g : α → List β} (h : ∀ a ∈ as, Adds (g a).length (f a)) :
    Adds (as.flatMap g).length (String.intercalate sep (as.map f)) := by
  induction as with
  | nil => exact fun rest => rfl
  | cons a as ih =>
    obtain ⟨ha, has⟩ := List.forall_mem_cons.1 h
    rw [List.flatMap_cons, List.length_append]
    cases as with
    | nil => simpa using ha
    | cons b bs =>
      have hab := (ha.append hsep).append (ih has)
      rwa [Nat.add_zero, List.map_cons (f := f), ← String.intercalate_cons_cons] at hab

theorem adds_commas {n : Nat} {ss : List String} (h : ∀ s ∈ ss, Adds n s) :
    Adds (ss.length * n) (commas ss) := by
  have hsep : Adds 0 ", " := adds_text (by decide)
  have hwidth : ∀ row ∈ ss.map fun _ => List.replicate n (), row.length = n := by simp
  have hs := adds_intercalate hsep (f := id) (g := fun _ => List.replicate n ()) (by simpa using h)
  rwa [List.flatMap_def, length_flatten_of_width hwidth, List.length_map, List.map_id] at hs

theorem adds_commas_replicate {n : Nat} {s : String} (k : Nat) (h : Adds n s) :
    Adds (k * n) (commas (List.replicate k s)) := by
  have hall : ∀ t ∈ List.replicate k s, Adds n t := by
    intro t ht
    rw [List.eq_of_mem_replicate ht]
    exact h
  have hs := adds_commas hall
  rwa [List.length_replicate] at hs

/-! ## Texts that may stay open -/

theorem append_ne_cons {c : Char} {cs rest : List Char} (h : ∀ t, cs = c :: t → False)
    (hr : rest.head? ≠ some c) (t : List Char) : cs ++ rest ≠ c :: t := by
  intro he
  cases cs with
  | nil => exact hr (by rw [← List.nil_append rest, he]; rfl)
  | cons b bs =>
    obtain ⟨rfl, -⟩ := List.cons.inj he
    exact h bs rfl

/-- The scan of a text goes on with the text that follows, unless this completes the opening of a
comment. -/
theorem scan_append (s : State) (cs : List Char) {rest : List Char}
    (hd : rest.head? ≠ some '-') (hs : rest.head? ≠ some '*') :
    scan s (cs ++ rest) =
      ((scan s cs).1 + (scan (scan s cs).2 rest).1, (scan (scan s cs).2 rest).2) := by
  induction s, cs using scan.induct with
  | case1 s => simp [scan]
  | case2 cs ih | case3 cs ih => simpa only [List.cons_append, scan] using ih
  | case4 cs n s hn _ _ ih =>
    rw [List.cons_append, scan_mark, scan_mark, ih]
    exact Prod.ext (by simp only; omega) rfl
  | case5 c cs _ _ _ hq ih => rw [List.cons_append, scan_quote hq, scan_quote hq, ih]
  | case6 c cs hdash hslash hm hq ih =>
    -- the character completes no opening with the text that follows either
    have hdash' : ∀ t, c = '-' → cs ++ rest = '-' :: t → False := fun t hc =>
      append_ne_cons (fun t => hdash t hc) hd t
    have hslash' : ∀ t, c = '/' → cs ++ rest = '*' :: t → False := fun t hc =>
      append_ne_cons (fun t => hslash t hc) hs t
    rw [List.cons_append, scan.eq_4 c _ hdash' hslash', scan.eq_4 c _ hdash hslash]
    simpa only [hm, hq, if_false, Bool.false_eq_true] using ih
  | case7 q cs ih => rw [List.cons_append, scan_close, scan_close, ih]
  | case8 q c cs hc ih => simpa only [List.cons_append, scan, hc, if_false] using ih
  | case9 cs ih => simpa only [List.cons_append, scan, if_true] using ih
  | case10 c cs hc ih => simpa only [List.cons_append, scan, hc, if_false] using ih
  | case11 star c cs hc ih => simpa only [List.cons_append, scan, hc, if_true] using ih
  | case12 star c cs hc ih =>
    simpa only [List.cons_append, scan, hc, if_false, Bool.false_eq_true] using ih

/-- Quoted text stands between quote characters. -/
def State.Quotes : State → Prop
  | quoted q => isQuote q
  | plain | line | block _ => True

theorem quotes_scan (s : State) (cs : List Char) (h : s.Quotes) : (scan s cs).2.Quotes := by
  induction s, cs using scan.induct with
  | case1 s => exact h
  | case2 cs ih | case3 cs ih => simpa only [scan] using ih trivial
  | case4 cs n s hn _ _ ih =>
    rw [scan_mark]
    exact ih trivial
  | case5 c cs _ _ _ hq ih =>
    rw [scan_quote hq]
    exact ih hq
  | case6 c cs hdash hslash hm hq ih =>
    rw [scan.eq_4 c _ hdash hslash]
    simpa only [hm, hq, if_false, Bool.false_eq_true] using ih trivial
  | case7 q cs ih =>
    rw [scan_close]
    exact ih trivial
  | case8 q c cs hc ih => simpa only [scan, hc, if_false] using ih h
  | case9 cs ih => simpa only [scan, if_true] using ih trivial
  | case10 c cs hc ih => simpa only [scan, hc, if_false] using ih trivial
  | case11 star c cs hc ih => simpa only [scan, hc, if_true] using ih trivial
  | case12 star c cs hc ih => simpa only [scan, hc, if_false, Bool.false_eq_true] using ih trivial

theorem count_append_limit (s : String) :
    count (s ++ " LIMIT ?") =
      count s + (scan (scan .plain s.toList).2 " LIMIT ?".toList).1 := by
  rw [count, String.toList_append, scan_append _ _ (by decide) (by decide)]
  rfl

/-- The placeholder of a limit is not counted behind a text that stays open. -/
theorem count_append_limit_of_open {s : String} (h : Open s) :
    count (s ++ " LIMIT ?") = count s := by
  have hq := quotes_scan .plain s.toList trivial
  rw [count_append_limit]
  cases hs : (scan .plain s.toList).2 with
  | plain => exact absurd hs h
  | line => rfl
  | block star => cases star <;> rfl
  | quoted q =>
    rw [hs] at hq
    simp only [State.Quotes, isQuote, Bool.or_eq_true, beq_iff_eq] at hq
    rcases hq with (rfl | rfl) | rfl <;> rfl

theorem count_append_limit_of_not_open {s : String} (h : ¬ Open s) :
    count (s ++ " LIMIT ?") = count s + 1 := by
  rw [count_append_limit, Decidable.not_not.1 h]
  rfl

end Clause.Placeholder

/-! ## Fragments -/

namespace Clause

open Placeholder

variable {d : Dialect}

theorem adds_columns (hd : d ≠ .generic) (columns : List String) :
    Adds 0 (commas (columns.map d.quoteName)) := by
  refine adds_commas (n := 0) fun s hs => ?_
  obtain ⟨c, -, rfl⟩ := List.mem_map.1 hs
  exact adds_quoteName hd c

theorem adds_tuple (n : Nat) : Adds n (tuple n) := by
  have hm : Adds 1 "?" := adds_marked (by decide)
  have hopen : Adds 0 "(" := adds_text (by decide)
  have h := (hopen.append (adds_commas_replicate n hm)).append (adds_text (s := ")") (by decide))
  simpa [tuple] using h

/-- Whatever a clause writes of its own has as many placeholders as parameters. -/
theorem adds_fragment (hd : d ≠ .generic) {c : Clause} (hf : c.kind ≠ .filter)
    (ho : c.kind ≠ .order) {f : Fragment} (h : c.fragment d = .ok f) :
    Adds f.params.length f.sql := by
  cases c with
  | filter => exact absurd rfl hf
  | order => exact absurd rfl ho
  | insert table columns =>
    obtain ⟨-, -, -, rfl⟩ := fragment_insert.1 h
    have hs : Adds 0 "INSERT INTO " := adds_text (by decide)
    exact (((hs.append (adds_quoteName hd table)).append (adds_text (by decide))).append
      (adds_columns hd columns)).append (adds_text (by decide))
  | values rows =>
    obtain ⟨-, width, -, hrows, rfl⟩ := fragment_values.1 h
    have hs : Adds 0 "VALUES " := adds_text (by decide)
    have hv := hs.append (adds_commas_replicate rows.length (adds_tuple width))
    rwa [Nat.zero_add, ← length_flatten_of_width hrows] at hv
  | select table columns =>
    obtain ⟨-, -, -, rfl⟩ := fragment_select.1 h
    have hs : Adds 0 "SELECT " := adds_text (by decide)
    exact ((hs.append (adds_columns hd columns)).append (adds_text (by decide))).append
      (adds_quoteName hd table)
  | count table =>
    obtain ⟨-, rfl⟩ := fragment_count.1 h
    have hs : Adds 0 "SELECT COUNT(*) FROM " := adds_text (by decide)
    exact hs.append (adds_quoteName hd table)
  | limit n =>
    obtain ⟨i, -, rfl⟩ := fragment_limit.1 h
    have hs : Adds 1 "LIMIT ?" := adds_marked (by decide)
    exact hs
  | update table assignments =>
    obtain ⟨-, -, -, rfl⟩ := fragment_update.1 h
    have hs : Adds 0 "UPDATE " := adds_text (by decide)
    have hset : ∀ s ∈ assignments.map fun a => d.quoteName a.1 ++ " = ?", Adds 1 s := by
      intro s hs
      obtain ⟨a, -, rfl⟩ := List.mem_map.1 hs
      have heq : Adds 1 " = ?" := adds_marked (by decide)
      exact (adds_quoteName hd a.1).append heq
    have hu := ((hs.append (adds_quoteName hd table)).append
      (adds_text (s := " SET ") (by decide))).append (adds_commas hset)
    simpa using hu
  | delete table =>
    obtain ⟨-, rfl⟩ := fragment_delete.1 h
    have hs : Adds 0 "DELETE FROM " := adds_text (by decide)
    exact hs.append (adds_quoteName hd table)

theorem count_filter {condition : String} {params : List Value} {f : Fragment}
    (h : (filter condition params).fragment d = .ok f) :
    Placeholder.count f.sql = f.params.length := by
  obtain ⟨-, hc, rfl⟩ := fragment_filter.1 h
  have hs : Adds 0 "WHERE " := adds_text (by decide)
  rw [hs.count_append, Nat.zero_add]
  exact hc

end Clause

/-- Fragments whose texts count for their parameters make a statement of which the same holds. -/
theorem Statement.adds_ofFragments {fs : List Fragment}
    (h : ∀ f ∈ fs, Clause.Placeholder.Adds f.params.length f.sql) :
    Clause.Placeholder.Adds (ofFragments fs).params.length (ofFragments fs).sql := by
  have hsep : Clause.Placeholder.Adds 0 " " := Clause.Placeholder.adds_text (by decide)
  exact Clause.Placeholder.adds_intercalate hsep (f := Fragment.sql) h

end RecordMapper
