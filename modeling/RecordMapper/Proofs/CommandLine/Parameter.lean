import RecordMapper.CommandLine.Parameter
import RecordMapper.Proofs.Decimal.Numeral

/-!
# What parameters stand for

A word on the command line is one of an integer that fits, a real, a keyword and a text, and
`StandsFor` says which by the grammars of numbers alone. An integer that does not fit is still a
real. Only a text keeps its spelling, so it matters that nothing else is taken for a number: no
numeral has blanks in it, and signs and points without digits are none.
-/

namespace RecordMapper.CommandLine

open Decimal (IsInteger IsReal)

variable {raw : String} {v : Value} {i : Integer64} {r : Binary64}

/-- The words for truth values and null, in the only spellings that they have. -/
inductive Keyword : String → Value → Prop
  | truth : Keyword "true" (.bool true)
  | falsity : Keyword "false" (.bool false)
  | null : Keyword "null" .null
  | upperNull : Keyword "NULL" .null

/-- The value that a word stands for. The kinds exclude each other: a real is no integer that fits,
keywords are no reals, and a text is none of these. -/
inductive StandsFor (raw : String) : Value → Prop
  | integer {i : Integer64} (h : IsInteger raw.toList i.val) : StandsFor raw (.integer i)
  | real {r : Binary64} (hi : ∀ i : Integer64, ¬ IsInteger raw.toList i.val)
    (h : IsReal raw.toList r) : StandsFor raw (.real r)
  | keyword {v : Value} (h : Keyword raw v) : StandsFor raw v
  | text (hr : ∀ r : Binary64, ¬ IsReal raw.toList r) (hk : ∀ v, ¬ Keyword raw v) :
    StandsFor raw (.text raw)

theorem eq_none_iff_of_eq_some_iff {α : Type} {o : Option α} {p : α → Prop}
    (h : ∀ a, o = some a ↔ p a) : o = none ↔ ∀ a, ¬ p a := by
  rw [Option.eq_none_iff_forall_ne_some]
  exact forall_congr' fun a => not_congr (h a)

theorem integer?_eq_some_iff : integer? raw = some i ↔ IsInteger raw.toList i.val := by
  rw [integer?, Option.bind_eq_some_iff]
  constructor
  · rintro ⟨n, hn, hi⟩
    rw [Bounded.ofInt?_eq_some_iff.1 hi]
    exact Decimal.readInteger?_eq_some_iff.1 hn
  · intro h
    exact ⟨_, Decimal.readInteger?_eq_some_iff.2 h, Bounded.ofInt?_val i⟩

theorem integer?_eq_none_iff :
    integer? raw = none ↔ ∀ i : Integer64, ¬ IsInteger raw.toList i.val :=
  eq_none_iff_of_eq_some_iff fun _ => integer?_eq_some_iff

theorem real?_eq_some_iff : real? raw = some r ↔ IsReal raw.toList r :=
  Decimal.readBinary?_eq_some_iff

theorem real?_eq_none_iff : real? raw = none ↔ ∀ r : Binary64, ¬ IsReal raw.toList r :=
  eq_none_iff_of_eq_some_iff fun _ => real?_eq_some_iff

theorem keyword?_eq_some_iff : keyword? raw = some v ↔ Keyword raw v := by
  constructor
  · intro h
    unfold keyword? at h
    split at h
    · next hraw => subst hraw; cases h; exact .truth
    · split at h
      · next hraw => subst hraw; cases h; exact .falsity
      · split at h
        · next hraw => rcases hraw with rfl | rfl <;> cases h <;> constructor
        · cases h
  · rintro (_ | _ | _ | _) <;> rfl

theorem keyword?_eq_none_iff : keyword? raw = none ↔ ∀ v, ¬ Keyword raw v :=
  eq_none_iff_of_eq_some_iff fun _ => keyword?_eq_some_iff

/-- No keyword is a number. -/
theorem Keyword.not_isReal (h : Keyword raw v) (r : Binary64) : ¬ IsReal raw.toList r := by
  rw [← real?_eq_some_iff]
  cases h <;> exact nofun

theorem standsFor_parameter (raw : String) : StandsFor raw (parameter raw) := by
  unfold parameter
  split
  · next hi => exact .integer (integer?_eq_some_iff.1 hi)
  · next hi hr => exact .real (integer?_eq_none_iff.1 hi) (real?_eq_some_iff.1 hr)
  · next hk => exact .keyword (keyword?_eq_some_iff.1 hk)
  · next hr hk => exact .text (real?_eq_none_iff.1 hr) (keyword?_eq_none_iff.1 hk)

/-- A word that is no real is no integer either. -/
theorem integer?_of_not_isReal (hr : ∀ r : Binary64, ¬ IsReal raw.toList r) :
    integer? raw = none := by
  refine integer?_eq_none_iff.2 fun i hi => ?_
  obtain ⟨r, h⟩ := hi.isReal
  exact hr r h

theorem parameter_eq_of_standsFor (h : StandsFor raw v) : parameter raw = v := by
  unfold parameter
  cases h with
  | integer h => rw [integer?_eq_some_iff.2 h]
  | real hi h => rw [integer?_eq_none_iff.2 hi, real?_eq_some_iff.2 h]
  | keyword h =>
    rw [integer?_of_not_isReal h.not_isReal, real?_eq_none_iff.2 h.not_isReal,
      keyword?_eq_some_iff.2 h]
  | text hr hk =>
    rw [integer?_of_not_isReal hr, real?_eq_none_iff.2 hr, keyword?_eq_none_iff.2 hk]

theorem parameter_eq_iff : parameter raw = v ↔ StandsFor raw v :=
  ⟨fun h => h ▸ standsFor_parameter raw, parameter_eq_of_standsFor⟩

/-- A written integer that does not fit stands for a real. -/
theorem standsFor_real_of_unfit {n : Int} (h : IsInteger raw.toList n)
    (hn : ¬ (IntegerType.i64.least ≤ n ∧ n ≤ IntegerType.i64.greatest)) :
    ∃ r, StandsFor raw (.real r) := by
  obtain ⟨r, hr⟩ := h.isReal (f := .double)
  refine ⟨r, .real (fun i hi => hn ?_) hr⟩
  have hval : i.val = n := hi.unique h
  exact hval ▸ ⟨i.least_le, i.le_greatest⟩

theorem Keyword.not_blank (h : Keyword raw v) : ∀ c ∈ raw.toList, Text.isBlank c = false := by
  cases h <;> exact Decimal.not_blank_of_all (by decide)

/-- Blanks are not trimmed off: a word with a blank anywhere in it is a text. -/
theorem standsFor_text_of_blank (h : ∃ c ∈ raw.toList, Text.isBlank c = true) :
    StandsFor raw (.text raw) := by
  obtain ⟨c, hc, hb⟩ := h
  refine .text (fun r hr => ?_) (fun v hv => ?_)
  · exact Bool.false_ne_true ((hr.not_blank c hc).symm.trans hb)
  · exact Bool.false_ne_true ((hv.not_blank c hc).symm.trans hb)

/-- The value of a parameter is what its word stands for: the integer that it writes, if this fits;
else the real that it writes, as is the case for digits beyond the range; else the value of a
keyword; and else the word itself, letter for letter. The last applies to the empty word, to signs
and points alone and to every word with a blank. -/
theorem parameter_follows_grammars (raw : String) :
    (∀ v, parameter raw = v ↔ StandsFor raw v) ∧
    (∀ n, IsInteger raw.toList n →
      ¬ (IntegerType.i64.least ≤ n ∧ n ≤ IntegerType.i64.greatest) →
        ∃ r, parameter raw = .real r) ∧
    (raw ∈ ["", "+", "-", "."] ∨ (∃ c ∈ raw.toList, Text.isBlank c = true) →
      parameter raw = .text raw) := by
  refine ⟨fun v => parameter_eq_iff, fun n h hn => ?_, fun h => ?_⟩
  · obtain ⟨r, hr⟩ := standsFor_real_of_unfit h hn
    exact ⟨r, parameter_eq_iff.2 hr⟩
  · rcases h with hbare | hblank
    · have hall : ∀ word ∈ ["", "+", "-", "."], parameter word = .text word := by decide
      exact hall raw hbare
    · exact parameter_eq_iff.2 (standsFor_text_of_blank hblank)

/-- Leading zeros behind a sign, the least integer that is too large, a word for infinity in mixed
case, a point without digits before it, a keyword in another case, and a digit behind a blank. -/
theorem parameter_follows_grammars_edges :
    parameter "-007" = .ofInt (-7) ∧
    (∃ r, parameter "9223372036854775808" = .real r) ∧
    parameter "-iNFinity" = .real (.infinite .double true) ∧
    parameter "+.5E-1" = .real (Decimal.toBinary .double false ⟨5, -2⟩) ∧
    parameter "TRUE" = .text "TRUE" ∧
    parameter " 1" = .text " 1" := by
  have h (raw : String) (v : Value) : parameter raw = v ↔ StandsFor raw v :=
    (parameter_follows_grammars raw).1 v
  have hseven : IsInteger (['-'] ++ ['0', '0', '7']) (-7) :=
    .negative .minus ⟨by decide, List.all_eq_true.1 (by decide)⟩
  have hlarge : IsInteger ([] ++ "9223372036854775808".toList) 9223372036854775808 :=
    .positive .none ⟨by decide, List.all_eq_true.1 (by decide)⟩
  have hinfinity : IsReal (['-'] ++ "iNFinity".toList) (Binary.infinite .double true) :=
    .signed .minus (.infinity (by decide))
  have htenth : IsReal (['+'] ++ ('.' :: ['5'] ++ 'E' :: (['-'] ++ ['1'])))
      (Decimal.toBinary .double false ⟨5, -2⟩) :=
    .signed .plus (.decimal (.leading ⟨by decide, List.all_eq_true.1 (by decide)⟩)
      (.some (.inr rfl) (.negative .minus ⟨by decide, List.all_eq_true.1 (by decide)⟩)))
  refine ⟨(h _ _).2 (.integer hseven), ?_, ?_, ?_, ?_, ?_⟩
  · exact (parameter_follows_grammars _).2.1 _ hlarge (by decide)
  · exact (h _ _).2 (.real (integer?_eq_none_iff.1 (by decide)) hinfinity)
  · exact (h _ _).2 (.real (integer?_eq_none_iff.1 (by decide)) htenth)
  · exact (h _ _).2 (.text (real?_eq_none_iff.1 (by decide)) (keyword?_eq_none_iff.1 (by decide)))
  · exact (parameter_follows_grammars _).2.2 (.inr ⟨' ', by decide, by decide⟩)

end RecordMapper.CommandLine
