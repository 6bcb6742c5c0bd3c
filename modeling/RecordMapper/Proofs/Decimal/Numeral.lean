import RecordMapper.Decimal.Numeral
import RecordMapper.Text.Blank

/-!
# Readers of numerals

The readers of numbers accept exactly the texts of the grammars, with the numbers that these write.
A numeral is taken apart from the left: a sign is split off by `splitSign_iff`, which serves both
readers, and of the digits as many are taken as there are, so that a part that ends where no digit
follows is found again. The words and the exponent are what is left.
-/

namespace RecordMapper.Decimal

variable {f : BinaryFormat} {c : Char} {cs sign ds es rest : List Char} {negative : Bool}
  {i e : Int} {d : Decimal} {r : Binary f}

/-! ## Signs -/

/-- No sign stands at the head of the text. -/
structure Unsigned (cs : List Char) : Prop where
  plus : cs.head? ≠ some '+'
  minus : cs.head? ≠ some '-'

theorem splitSign_of_unsigned (h : Unsigned cs) : splitSign cs = (false, cs) := by
  refine splitSign.eq_3 cs ?_ ?_
  · rintro rest rfl
    exact h.minus rfl
  · rintro rest rfl
    exact h.plus rfl

theorem splitSign_append (hs : IsSign sign negative) (hr : Unsigned rest) :
    splitSign (sign ++ rest) = (negative, rest) := by
  cases hs with
  | none => exact splitSign_of_unsigned hr
  | plus => rfl
  | minus => rfl

theorem exists_sign (cs : List Char) :
    ∃ sign, IsSign sign (splitSign cs).1 ∧ cs = sign ++ (splitSign cs).2 := by
  fun_cases splitSign cs with
  | case1 rest => exact ⟨_, .minus, rfl⟩
  | case2 rest => exact ⟨_, .plus, rfl⟩
  | case3 => exact ⟨_, .none, rfl⟩

/-- What holds behind the sign of a text, if a second sign is ruled out. -/
theorem splitSign_iff {p : Bool → List Char → Prop}
    (hp : ∀ {negative rest}, p negative rest → Unsigned rest) :
    p (splitSign cs).1 (splitSign cs).2 ↔
      ∃ sign negative rest, IsSign sign negative ∧ p negative rest ∧ cs = sign ++ rest := by
  constructor
  · intro h
    obtain ⟨sign, hs, hcs⟩ := exists_sign cs
    exact ⟨sign, _, _, hs, h, hcs⟩
  · rintro ⟨sign, negative, rest, hs, h, rfl⟩
    rwa [splitSign_append hs (hp h)]

/-! ## Digits -/

/-- The text does not go on with a digit. -/
def Stops (cs : List Char) : Prop :=
  ∀ c ∈ cs.head?, isDigit c = false

theorem isDigit_iff : isDigit c = true ↔ 48 ≤ c.toNat ∧ c.toNat ≤ 57 := by
  rw [isDigit, Bool.and_eq_true, decide_eq_true_eq, decide_eq_true_eq]
  exact Iff.rfl

theorem IsDigits.exists_cons (h : IsDigits ds) : ∃ c rest, ds = c :: rest ∧ isDigit c = true := by
  obtain ⟨c, rest, rfl⟩ := List.exists_cons_of_ne_nil h.1
  exact ⟨c, rest, rfl, h.2 c List.mem_cons_self⟩

/-- A digit and a point are no signs. -/
theorem unsigned_cons (h : isDigit c = true ∨ c = '.') (cs : List Char) : Unsigned (c :: cs) := by
  constructor <;> intro hc <;> cases Option.some.inj hc <;> exact absurd h (by decide)

theorem IsDigits.unsigned (h : IsDigits ds) : Unsigned ds := by
  obtain ⟨c, rest, rfl, hc⟩ := h.exists_cons
  exact unsigned_cons (.inl hc) rest

theorem takeWhile_digits (hd : ∀ c ∈ ds, isDigit c = true) (hr : Stops rest) :
    (ds ++ rest).takeWhile isDigit = ds := by
  have hrest : rest.takeWhile isDigit = [] := by
    cases rest with
    | nil => rfl
    | cons c rest => exact List.takeWhile_cons_of_neg (by simp [hr c rfl])
  rw [List.takeWhile_append_of_pos hd, hrest, List.append_nil]

theorem dropWhile_digits (hd : ∀ c ∈ ds, isDigit c = true) (hr : Stops rest) :
    (ds ++ rest).dropWhile isDigit = rest := by
  rw [List.dropWhile_append_of_pos hd]
  cases rest with
  | nil => rfl
  | cons c rest => exact List.dropWhile_cons_of_neg (by simp [hr c rfl])

/-- A text begins with as many digits as it can. -/
theorem exists_digits (cs : List Char) :
    ∃ ds rest, cs = ds ++ rest ∧ (∀ c ∈ ds, isDigit c = true) ∧ Stops rest := by
  refine ⟨cs.takeWhile isDigit, cs.dropWhile isDigit, List.takeWhile_append_dropWhile.symm,
    List.all_eq_true.1 List.all_takeWhile, fun c hc => ?_⟩
  have h := List.head?_dropWhile_not isDigit cs
  rwa [Option.mem_def.1 hc] at h

/-! ## Integers -/

theorem isInteger_iff :
    IsInteger cs i ↔ ∃ sign negative ds, IsSign sign negative ∧
      (IsDigits ds ∧ (if negative then -(ofDigits ds : Int) else ofDigits ds) = i) ∧
        cs = sign ++ ds := by
  constructor
  · rintro (⟨hs, hd⟩ | ⟨hs, hd⟩)
    · exact ⟨_, _, _, hs, ⟨hd, rfl⟩, rfl⟩
    · exact ⟨_, _, _, hs, ⟨hd, rfl⟩, rfl⟩
  · rintro ⟨sign, negative, ds, hs, ⟨hd, rfl⟩, rfl⟩
    cases negative with
    | false => exact .positive hs hd
    | true => exact .negative hs hd

theorem readInteger?_eq_some_iff : readInteger? cs = some i ↔ IsInteger cs i := by
  rw [isInteger_iff, ← splitSign_iff fun h => h.1.unsigned]
  unfold readInteger?
  obtain ⟨negative, ds⟩ := splitSign cs
  simp only [IsDigits, List.all_eq_true]
  by_cases hd : ds ≠ [] ∧ ∀ c ∈ ds, isDigit c = true
  · rw [if_pos hd, Option.some_inj]
    exact (and_iff_right hd).symm
  · rw [if_neg hd]
    exact iff_of_false nofun fun h => hd h.1

/-- A text writes one integer at most. -/
theorem IsInteger.unique {j : Int} (hi : IsInteger cs i) (hj : IsInteger cs j) : i = j :=
  Option.some.inj ((readInteger?_eq_some_iff.2 hi).symm.trans (readInteger?_eq_some_iff.2 hj))

theorem readExponent?_eq_some_iff : readExponent? cs = some e ↔ IsExponent cs e := by
  constructor
  · intro h
    cases cs with
    | nil => cases h; exact .none
    | cons c cs =>
      rw [readExponent?] at h
      split at h
      · next hc => exact .some hc (readInteger?_eq_some_iff.1 h)
      · cases h
  · intro h
    cases h with
    | none => rfl
    | some hc hi => rw [readExponent?, if_pos hc, readInteger?_eq_some_iff.2 hi]

/-! ## Decimals -/

theorem IsExponent.stops (h : IsExponent cs e) : Stops cs := by
  intro c hc
  rcases h with _ | ⟨rfl | rfl, _⟩ <;> cases hc <;> rfl

theorem IsExponent.not_point (h : IsExponent cs e) : ¬ ∃ more, cs = '.' :: more := by
  rintro ⟨more, hcs⟩
  rcases h with _ | ⟨rfl | rfl, _⟩ <;> cases hcs

/-- Without a point, what follows the digits is the exponent. -/
theorem readDecimal?_whole (hd : ∀ c ∈ ds, isDigit c = true) (hr : Stops rest)
    (hp : ¬ ∃ more, rest = '.' :: more) :
    readDecimal? (ds ++ rest) =
      if ds = [] then none else (readExponent? rest).map fun e => ⟨ofDigits ds, e⟩ := by
  -- rules out the first case of the match on the rest
  have hne : ∀ more, rest = '.' :: more → False := fun more h => hp ⟨more, h⟩
  unfold readDecimal?
  rw [takeWhile_digits hd hr, dropWhile_digits hd hr]
  simp

theorem readDecimal?_pointed (hd : ∀ c ∈ ds, isDigit c = true) (he : ∀ c ∈ es, isDigit c = true)
    (hr : Stops rest) :
    readDecimal? (ds ++ '.' :: (es ++ rest)) =
      if ds = [] ∧ es = [] then none
      else (readExponent? rest).map fun e => ⟨ofDigits (ds ++ es), e - es.length⟩ := by
  have hpoint : Stops ('.' :: (es ++ rest)) := by
    rintro _ ⟨⟩
    rfl
  unfold readDecimal?
  rw [takeWhile_digits hd hpoint, dropWhile_digits hd hpoint]
  simp only [takeWhile_digits he hr, dropWhile_digits he hr]

/-- Digits on either side of a point are a decimal, unless there are none on both. -/
theorem isPointed_point (hd : ∀ c ∈ ds, isDigit c = true) (he : ∀ c ∈ es, isDigit c = true)
    (hn : ¬ (ds = [] ∧ es = [])) :
    IsPointed (ds ++ '.' :: es) ⟨ofDigits (ds ++ es), -es.length⟩ := by
  by_cases hds : ds = []
  · subst hds
    exact .leading ⟨fun hes => hn ⟨rfl, hes⟩, he⟩
  · by_cases hes : es = []
    · subst hes
      rw [List.append_nil]
      exact .trailing ⟨hds, hd⟩
    · exact .between ⟨hds, hd⟩ ⟨hes, he⟩

/-- The text of a decimal, in the way in which it is read: as digits, or as digits on both sides of
a point. -/
theorem isPointed_iff :
    IsPointed cs d ↔
      ((∀ c ∈ cs, isDigit c = true) ∧ cs ≠ [] ∧ d = ⟨ofDigits cs, 0⟩) ∨
      ∃ ds es, (∀ c ∈ ds, isDigit c = true) ∧ (∀ c ∈ es, isDigit c = true) ∧
        ¬ (ds = [] ∧ es = []) ∧ cs = ds ++ '.' :: es ∧ d = ⟨ofDigits (ds ++ es), -es.length⟩ := by
  constructor
  · rintro (hd | hd | hd | ⟨hd, he⟩)
    · exact .inl ⟨hd.2, hd.1, rfl⟩
    · refine .inr ⟨_, [], hd.2, nofun, fun hn => hd.1 hn.1, rfl, ?_⟩
      rw [List.append_nil]
      rfl
    · exact .inr ⟨[], _, nofun, hd.2, fun hn => hd.1 hn.2, rfl, rfl⟩
    · exact .inr ⟨_, _, hd.2, he.2, fun hn => hd.1 hn.1, rfl, rfl⟩
  · rintro (⟨hd, hn, rfl⟩ | ⟨ds, es, hd, he, hn, rfl, rfl⟩)
    · exact .whole ⟨hn, hd⟩
    · exact isPointed_point hd he hn

theorem readDecimal?_eq_some_iff :
    readDecimal? cs = some d ↔
      ∃ ds es p e, IsPointed ds p ∧ IsExponent es e ∧ cs = ds ++ es ∧
        d = ⟨p.coefficient, p.exponent + e⟩ := by
  constructor
  · intro h
    obtain ⟨ds, rest, rfl, hd, hr⟩ := exists_digits cs
    by_cases hp : ∃ more, rest = '.' :: more
    · obtain ⟨more, rfl⟩ := hp
      obtain ⟨es, tail, rfl, he, ht⟩ := exists_digits more
      rw [readDecimal?_pointed hd he ht] at h
      split at h
      · cases h
      · next hn =>
        obtain ⟨e, hread, rfl⟩ := Option.map_eq_some_iff.1 h
        refine ⟨_, _, _, e, isPointed_point hd he hn, readExponent?_eq_some_iff.1 hread, ?_, ?_⟩
        · simp
        · simp [Int.sub_eq_add_neg, Int.add_comm]
    · rw [readDecimal?_whole hd hr hp] at h
      split at h
      · cases h
      · next hn =>
        obtain ⟨e, hread, rfl⟩ := Option.map_eq_some_iff.1 h
        refine ⟨_, _, _, e, .whole ⟨hn, hd⟩, readExponent?_eq_some_iff.1 hread, rfl, ?_⟩
        simp
  · rintro ⟨ds, es, p, e, hp, he, rfl, rfl⟩
    have hread := readExponent?_eq_some_iff.2 he
    rcases isPointed_iff.1 hp with ⟨hd, hn, rfl⟩ | ⟨ws, fs, hw, hf, hn, rfl, rfl⟩
    · rw [readDecimal?_whole hd he.stops he.not_point, if_neg hn, hread]
      simp
    · rw [List.append_assoc, List.cons_append, readDecimal?_pointed hw hf he.stops, if_neg hn,
        hread]
      simp [Int.sub_eq_add_neg, Int.add_comm]

/-! ## Reals -/

theorem IsPointed.exists_cons (h : IsPointed ds d) :
    ∃ c rest, ds = c :: rest ∧ (isDigit c = true ∨ c = '.') := by
  cases h with
  | whole hd =>
    obtain ⟨c, rest, rfl, hc⟩ := hd.exists_cons
    exact ⟨c, rest, rfl, .inl hc⟩
  | trailing hd | between hd _ =>
    obtain ⟨c, rest, rfl, hc⟩ := hd.exists_cons
    exact ⟨c, _, rfl, .inl hc⟩
  | leading _ => exact ⟨_, _, rfl, .inr rfl⟩

/-- A character outside the upper-case letters of ASCII is its own lower case. -/
theorem toLower_of_not_upper (h : ¬ (65 ≤ c.toNat ∧ c.toNat ≤ 90)) : c.toLower = c := by
  refine dif_neg fun hc => h ?_
  exact ⟨UInt32.le_iff_toNat_le.1 hc.1, UInt32.le_iff_toNat_le.1 hc.2⟩

theorem toLower_of_begins (h : isDigit c = true ∨ c = '.') : c.toLower = c := by
  rcases h with h | rfl
  · have hcode := isDigit_iff.1 h
    exact toLower_of_not_upper (by omega)
  · rfl

/-- A decimal does not begin with the letter of a word. -/
theorem IsPointed.lower_ne (h : IsPointed ds d) (es : List Char) {b : Char} {word : List Char}
    (hb : ¬ (isDigit b = true ∨ b = '.')) : (ds ++ es).map Char.toLower ≠ b :: word := by
  obtain ⟨c, rest, rfl, hc⟩ := h.exists_cons
  intro hw
  obtain ⟨rfl, -⟩ := List.cons.inj hw
  rw [toLower_of_begins hc] at hb
  exact hb hc

theorem mem_infinityWords {word : List Char} :
    word ∈ infinityWords ↔
      word = ['i', 'n', 'f'] ∨ word = ['i', 'n', 'f', 'i', 'n', 'i', 't', 'y'] := by
  simp [infinityWords]

theorem readMagnitude?_eq_some_iff :
    readMagnitude? f negative cs = some r ↔ IsMagnitude negative cs r := by
  unfold readMagnitude?
  simp only [← mem_infinityWords]
  constructor
  · intro h
    split at h
    · next hw => cases h; exact .infinity hw
    · split at h
      · next hw => cases h; exact .notANumber hw
      · obtain ⟨d, hd, rfl⟩ := Option.map_eq_some_iff.1 h
        obtain ⟨ds, es, p, e, hp, he, rfl, rfl⟩ := readDecimal?_eq_some_iff.1 hd
        exact .decimal hp he
  · intro h
    cases h with
    | infinity hw => rw [if_pos hw]
    | notANumber hw =>
      have hn : cs.map Char.toLower = ['n', 'a', 'n'] := hw
      have hi : ['n', 'a', 'n'] ∉ infinityWords := by decide
      rw [if_neg (hn ▸ hi), if_pos hn]
    | @decimal ds es p e hd he =>
      have hi : (ds ++ es).map Char.toLower ∉ infinityWords := by
        rw [mem_infinityWords]
        rintro (hw | hw) <;> exact hd.lower_ne es (by decide) hw
      rw [if_neg hi, if_neg (hd.lower_ne es (by decide)),
        readDecimal?_eq_some_iff.2 ⟨_, _, _, _, hd, he, rfl, rfl⟩]
      rfl

/-- A word of letters begins with no sign, whatever the case of its letters. -/
theorem unsigned_of_lower {word : List Char} (hw : Unsigned word)
    (h : cs.map Char.toLower = word) : Unsigned cs := by
  subst h
  cases cs with
  | nil => exact ⟨nofun, nofun⟩
  | cons c cs =>
    constructor <;> rintro h <;> cases Option.some.inj h
    · exact hw.plus rfl
    · exact hw.minus rfl

theorem IsMagnitude.unsigned (h : IsMagnitude negative cs r) : Unsigned cs := by
  cases h with
  | infinity hw =>
    rcases mem_infinityWords.1 hw with hw | hw <;>
      exact unsigned_of_lower ⟨by decide, by decide⟩ hw
  | notANumber hw => exact unsigned_of_lower ⟨by decide, by decide⟩ hw
  | decimal hd _ =>
    obtain ⟨c, rest, rfl, hc⟩ := hd.exists_cons
    exact unsigned_cons hc _

theorem isReal_iff :
    IsReal cs r ↔
      ∃ sign negative rest, IsSign sign negative ∧ IsMagnitude negative rest r ∧
        cs = sign ++ rest := by
  constructor
  · rintro ⟨hs, hm⟩
    exact ⟨_, _, _, hs, hm, rfl⟩
  · rintro ⟨sign, negative, rest, hs, hm, rfl⟩
    exact .signed hs hm

theorem readBinary?_eq_some_iff : readBinary? f cs = some r ↔ IsReal cs r := by
  rw [isReal_iff, ← splitSign_iff fun h => h.unsigned]
  exact readMagnitude?_eq_some_iff

/-- An integer is a decimal without a point. -/
theorem IsInteger.isReal (h : IsInteger cs i) : ∃ r : Binary f, IsReal cs r := by
  obtain ⟨sign, negative, ds, hs, ⟨hd, -⟩, rfl⟩ := isInteger_iff.1 h
  have hm : IsMagnitude negative (ds ++ []) (toBinary f negative ⟨ofDigits ds, 0 + 0⟩) :=
    .decimal (.whole hd) .none
  rw [List.append_nil] at hm
  exact ⟨_, .signed hs hm⟩

/-! ## Blanks

No numeral has a blank in it.
-/

open Text (isBlank)

/-- The blanks of ASCII come before its digits and letters, and the other blanks behind them. -/
theorem blank_code (h : isBlank c = true) : c.toNat ≤ 32 ∨ 133 ≤ c.toNat := by
  simp only [isBlank, Bool.or_eq_true, Bool.and_eq_true, decide_eq_true_eq, beq_iff_eq] at h
  omega

theorem not_blank_of_isDigit (h : isDigit c = true) : isBlank c = false := by
  refine Bool.eq_false_iff.2 fun hb => ?_
  have hdigit := isDigit_iff.1 h
  have hblank := blank_code hb
  omega

theorem not_blank_of_lower {word : List Char} (hw : ∀ b ∈ word, isBlank b = false)
    (h : cs.map Char.toLower = word) : ∀ c ∈ cs, isBlank c = false := by
  intro c hc
  refine Bool.eq_false_iff.2 fun hb => ?_
  have hblank := blank_code hb
  have hlow : c.toLower = c := toLower_of_not_upper (by omega)
  have hmem : c ∈ word := h ▸ hlow ▸ List.mem_map_of_mem hc
  rw [hw c hmem] at hb
  cases hb

theorem not_blank_of_all (h : (cs.all fun c => !isBlank c) = true) :
    ∀ c ∈ cs, isBlank c = false := by
  simpa using h

theorem IsSign.not_blank (h : IsSign cs negative) : ∀ c ∈ cs, isBlank c = false := by
  cases h <;> exact not_blank_of_all (by decide)

theorem IsDigits.not_blank (h : IsDigits cs) : ∀ c ∈ cs, isBlank c = false :=
  fun c hc => not_blank_of_isDigit (h.2 c hc)

theorem IsInteger.not_blank (h : IsInteger cs i) : ∀ c ∈ cs, isBlank c = false := by
  rcases h with ⟨hs, hd⟩ | ⟨hs, hd⟩ <;>
    exact List.forall_mem_append.2 ⟨hs.not_blank, hd.not_blank⟩

theorem IsPointed.not_blank (h : IsPointed cs d) : ∀ c ∈ cs, isBlank c = false := by
  have hpoint : isBlank '.' = false := by decide
  cases h with
  | whole hd => exact hd.not_blank
  | trailing hd =>
    exact List.forall_mem_append.2 ⟨hd.not_blank, List.forall_mem_singleton.2 hpoint⟩
  | leading hd => exact List.forall_mem_cons.2 ⟨hpoint, hd.not_blank⟩
  | between hd he =>
    exact List.forall_mem_append.2 ⟨hd.not_blank, List.forall_mem_cons.2 ⟨hpoint, he.not_blank⟩⟩

theorem IsExponent.not_blank (h : IsExponent cs e) : ∀ c ∈ cs, isBlank c = false := by
  cases h with
  | none => exact nofun
  | some hc hi =>
    refine List.forall_mem_cons.2 ⟨?_, hi.not_blank⟩
    rcases hc with rfl | rfl <;> decide

theorem IsReal.not_blank (h : IsReal cs r) : ∀ c ∈ cs, isBlank c = false := by
  obtain ⟨hs, hm⟩ := h
  refine List.forall_mem_append.2 ⟨hs.not_blank, ?_⟩
  cases hm with
  | infinity hw =>
    rcases mem_infinityWords.1 hw with hw | hw <;>
      exact not_blank_of_lower (not_blank_of_all (by decide)) hw
  | notANumber hw => exact not_blank_of_lower (not_blank_of_all (by decide)) hw
  | decimal hd he => exact List.forall_mem_append.2 ⟨hd.not_blank, he.not_blank⟩

end RecordMapper.Decimal
