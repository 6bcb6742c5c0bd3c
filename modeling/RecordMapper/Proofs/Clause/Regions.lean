import RecordMapper.Clause.Lexer
import RecordMapper.Proofs.Clause.Scan

/-!
# Placeholders by regions

The scanner of placeholders has fewer rules than the lexer of regions: it knows no doubled quotes,
so a quote always ends quoted text and the next one opens it anew, and within a block comment it
looks back at the last character where the lexer looks ahead to the next. Both count the same
question marks. The argument is a simulation: `scan_eq_marks` relates every state of the scanner to
what the lexer has read then, and there is one lemma of the lexer for each step of the scanner.
-/

namespace RecordMapper.Clause.Lexer

open Placeholder

variable {c q : Char} {cs : List Char}

/-! ## Steps of the lexer -/

theorem marks_dashes (cs : List Char) : marks .plain ('-' :: '-' :: cs) = marks .line cs := rfl

theorem marks_opening (cs : List Char) : marks .plain ('/' :: '*' :: cs) = marks .block cs := rfl

theorem marks_ending (cs : List Char) : marks .block ('*' :: '/' :: cs) = marks .plain cs := rfl

theorem marks_mark (cs : List Char) : marks .plain ('?' :: cs) = marks .plain cs + 1 := rfl

theorem marks_quote (hq : isQuote q) (cs : List Char) :
    marks .plain (q :: cs) = marks (.quoted q) cs := by
  simp only [isQuote, Bool.or_eq_true, beq_iff_eq] at hq
  rcases hq with (rfl | rfl) | rfl <;> rfl

/-- A character that opens nothing, alone or with the one behind it, is passed over. -/
theorem marks_passed (hd : ∀ t, c = '-' → cs = '-' :: t → False)
    (hs : ∀ t, c = '/' → cs = '*' :: t → False) (hm : c ≠ '?') (hq : ¬ isQuote c) :
    marks .plain (c :: cs) = marks .plain cs := by
  rw [marks.eq_5 c cs hd hs hm, if_neg hq]

/-- A quote ends quoted text even where it is doubled: the second quote opens quoted text anew. -/
theorem marks_close (hq : isQuote q) (cs : List Char) :
    marks (.quoted q) (q :: cs) = marks .plain cs := by
  cases cs with
  | nil => simp [marks]
  | cons d cs =>
    by_cases hd : d = q
    · subst hd
      rw [marks_quote hq]
      simp [marks]
    · simp [marks, hd]

theorem marks_quoted (hc : c ≠ q) (cs : List Char) :
    marks (.quoted q) (c :: cs) = marks (.quoted q) cs := by
  cases cs <;> simp [marks, hc]

theorem marks_line (hc : c ≠ '\n') (cs : List Char) : marks .line (c :: cs) = marks .line cs := by
  rw [marks, if_neg hc]

theorem marks_line_end (cs : List Char) : marks .line ('\n' :: cs) = marks .plain cs := rfl

theorem marks_block (h : ∀ t, c = '*' → cs = '/' :: t → False) :
    marks .block (c :: cs) = marks .block cs :=
  marks.eq_10 c cs h

/-- A star that no slash follows does not end a block comment. -/
theorem marks_star (hc : c ≠ '/') (cs : List Char) :
    marks .block ('*' :: c :: cs) = marks .block (c :: cs) :=
  marks_block fun _ _ h => hc (List.cons.inj h).1

/-! ## The simulation -/

/-- The region that the scanner is in. -/
def region : State → Region
  | .plain => .plain
  | .quoted q => .quoted q
  | .line => .line
  | .block _ => .block

/-- What the scanner has passed over and the lexer has not: the star before a slash may be the end
of a block comment. -/
def held : State → List Char
  | .block true => ['*']
  | .plain | .quoted _ | .line | .block false => []

/-- Behind a star that was held back, another one is held back in its place. -/
theorem marks_held {star : Bool} (h : ¬ (star && c == '/')) (cs : List Char) :
    marks .block (held (.block star) ++ c :: cs) =
      marks .block (held (.block (c == '*')) ++ cs) := by
  have hc : marks .block (c :: cs) = marks .block (held (.block (c == '*')) ++ cs) := by
    by_cases hs : c = '*'
    · subst hs
      rfl
    · have hstar : (c == '*') = false := beq_eq_false_iff_ne.2 hs
      rw [hstar, marks_block fun _ hc => absurd hc hs]
      rfl
  rw [← hc]
  cases star with
  | false => rfl
  | true =>
    have hslash : c ≠ '/' := by
      rintro rfl
      exact h rfl
    exact marks_star hslash cs

/-- From any of its states, the scanner counts the question marks that the lexer finds in plain text
from there on. -/
theorem scan_eq_marks (s : State) (cs : List Char) (hs : s.Quotes) :
    (scan s cs).1 = marks (region s) (held s ++ cs) := by
  induction s, cs using scan.induct with
  | case1 s =>
    rcases s with _ | q | _ | star
    case block => cases star <;> rfl
    all_goals rfl
  | case2 cs ih =>
    -- a line comment is opened
    rw [scan, ih trivial]
    exact (marks_dashes cs).symm
  | case3 cs ih =>
    -- a block comment is opened, and its star is not held back
    rw [scan, ih trivial]
    exact (marks_opening cs).symm
  | case4 cs n s hn _ _ ih =>
    rw [scan_mark, ih trivial]
    exact (marks_mark cs).symm
  | case5 c cs _ _ _ hq ih =>
    rw [scan_quote hq, ih hq]
    exact (marks_quote hq cs).symm
  | case6 c cs hdash hslash hm hq ih =>
    rw [scan.eq_4 c cs hdash hslash, if_neg hm, if_neg hq, ih trivial]
    exact (marks_passed hdash hslash hm hq).symm
  | case7 q cs ih =>
    rw [scan_close, ih trivial]
    exact (marks_close hs cs).symm
  | case8 q c cs hc ih =>
    rw [scan, if_neg hc, ih hs]
    exact (marks_quoted hc cs).symm
  | case9 cs ih =>
    rw [scan, if_pos rfl, ih trivial]
    exact (marks_line_end cs).symm
  | case10 c cs hc ih =>
    rw [scan, if_neg hc, ih trivial]
    exact (marks_line hc cs).symm
  | case11 star c cs hc ih =>
    -- the star that was held back and this slash end the comment
    obtain ⟨rfl, hslash⟩ := Bool.and_eq_true_iff.1 hc
    rw [scan, if_pos hc, ih trivial, beq_iff_eq.1 hslash]
    exact (marks_ending cs).symm
  | case12 star c cs hc ih =>
    rw [scan, if_neg hc, ih trivial]
    exact (marks_held hc cs).symm

/-- The placeholders of a text are the question marks in its plain regions: those outside quoted
text, in which a doubled quote is a character, and outside comments, whatever is left open at the
end. -/
theorem count_eq_marks (s : String) : Placeholder.count s = marks .plain s.toList :=
  scan_eq_marks .plain s.toList trivial

/-- Doubled quotes, a dash and a slash that open nothing, a comment that its own opening does not
end, and a comment that is not ended at all. -/
example : Placeholder.count "a - ? / 'it''s ?' /*/ ? **/ ? -- ?" = 2 := by decide

end RecordMapper.Clause.Lexer
