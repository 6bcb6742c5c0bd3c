import Mathlib.Algebra.Ring.Nat
import RecordMapper.Proofs.Clause.Scan

/-!
# Placeholders of joined texts

The scan looks one character ahead, so that texts do not add up where one follows the other at once:
two dashes open a comment, and so do a slash and a star. The space that stands between joined texts
rules this out, and only a text that ends within quoted text or a comment reaches beyond it. Quoted
names need no space, since the scan is in plain text behind their last quote.
-/

namespace RecordMapper

namespace Clause.Placeholder

variable {s : String} {d : Dialect}

/-- Behind a text that is not open, and a space, the scan starts anew. -/
theorem scan_join (h : ¬ Open s) (t : String) :
    scan .plain (s ++ " " ++ t).toList =
      (count s + (scan .plain t.toList).1, (scan .plain t.toList).2) := by
  have hplain : (scan .plain s.toList).2 = .plain := Decidable.not_not.1 h
  have hspace : scan .plain (' ' :: t.toList) = scan .plain t.toList :=
    scan_ordinary (by decide) _
  rw [String.toList_append, String.toList_append, List.append_assoc]
  change scan .plain (s.toList ++ ' ' :: t.toList) = _
  -- a space completes the opening of no comment, so the scan goes on where it stands
  rw [scan_append .plain s.toList (by simp) (by simp), hplain, hspace]
  rfl

theorem count_join (h : ¬ Open s) (t : String) : count (s ++ " " ++ t) = count s + count t := by
  rw [count, scan_join h]
  rfl

theorem open_join_iff (h : ¬ Open s) (t : String) : Open (s ++ " " ++ t) ↔ Open t := by
  unfold Open
  rw [scan_join h]

/-- An open text takes in the placeholder of a limit. -/
theorem exists_count_join_ne (h : Open s) : ∃ t, count (s ++ " " ++ t) ≠ count s + count t := by
  refine ⟨"LIMIT ?", ?_⟩
  have hlimit : count (s ++ " " ++ "LIMIT ?") = count s := by
    rw [String.append_assoc]
    exact count_append_limit_of_open h
  have hone : count "LIMIT ?" = 1 := by decide
  omega

/-- The counts of a list of joined texts add up if all but the last are closed, and the whole ends
as the last one does. By induction on the list: to the first text the whole rest is joined. -/
theorem count_intercalate {ss : List String} (h : ∀ s ∈ ss.dropLast, ¬ Open s) :
    count (String.intercalate " " ss) = (ss.map count).sum ∧
      (Open (String.intercalate " " ss) ↔ ∃ s ∈ ss.getLast?, Open s) := by
  induction ss with
  | nil =>
    have hnil : ¬ Open "" := by decide
    simpa using ⟨rfl, hnil⟩
  | cons s ss ih =>
    cases ss with
    | nil => simp
    | cons t ts =>
      rw [List.dropLast_cons_cons, List.forall_mem_cons] at h
      obtain ⟨hs, hts⟩ := h
      obtain ⟨hcount, hopen⟩ := ih hts
      rw [String.intercalate_cons_cons, count_join hs, open_join_iff hs, hcount, hopen,
        List.getLast?_cons_cons, List.map_cons (l := t :: ts), List.sum_cons]
      exact ⟨rfl, Iff.rfl⟩

theorem scan_quoteName (hd : d ≠ .generic) (name rest : String) :
    scan .plain (d.quoteName name ++ rest).toList = scan .plain rest.toList := by
  rw [String.toList_append, adds_quoteName hd]
  rfl

/-- Joining adds up. A text that is not open adds its placeholders to those of whatever is joined to
it, which also decides whether the whole is open, and only such a text does; so for the fragments of
a statement, of which the last may be open. A quoted name adds nothing, and what follows it, be it
another quote, is scanned as if it stood alone. -/
theorem joined_texts_add_up :
    (∀ s, ¬ Open s → ∀ t,
      count (s ++ " " ++ t) = count s + count t ∧ (Open (s ++ " " ++ t) ↔ Open t)) ∧
    (∀ s, Open s → ∃ t, count (s ++ " " ++ t) ≠ count s + count t) ∧
    (∀ fs : List Fragment, (∀ f ∈ fs.dropLast, ¬ Open f.sql) →
      count (Statement.ofFragments fs).sql = (fs.map fun f => count f.sql).sum ∧
        (Open (Statement.ofFragments fs).sql ↔ ∃ f ∈ fs.getLast?, Open f.sql)) ∧
    ∀ d : Dialect, d ≠ .generic → ∀ name,
      ¬ Open (d.quoteName name) ∧ ∀ rest,
        count (d.quoteName name ++ rest) = count rest ∧
          (Open (d.quoteName name ++ rest) ↔ Open rest) := by
  refine ⟨fun s hs t => ⟨count_join hs t, open_join_iff hs t⟩, fun s => exists_count_join_ne,
    fun fs hfs => ?_, fun d hd name => ⟨?_, fun rest => ?_⟩⟩
  · have hss : ∀ s ∈ (fs.map (·.sql)).dropLast, ¬ Open s := by
      rw [← List.map_dropLast]
      exact List.forall_mem_map.2 hfs
    obtain ⟨hcount, hopen⟩ := count_intercalate hss
    rw [List.map_map] at hcount
    rw [List.getLast?_map] at hopen
    refine ⟨hcount, hopen.trans ?_⟩
    simp
  · have hend := scan_quoteName hd name ""
    rw [String.append_empty] at hend
    rw [Open, hend]
    exact not_not_intro rfl
  · have hscan := scan_quoteName hd name rest
    unfold count Open
    rw [hscan]
    exact ⟨rfl, Iff.rfl⟩

/-- A dash that ends a closed text opens no comment with the dash behind the space, an open text
takes in what follows, and a name with a quote, a question mark and two dashes adds nothing. -/
theorem joined_texts_add_up_dashes :
    count ("a = ? -" ++ " " ++ "- ? /* ?") = 2 ∧ Open ("a = ? -" ++ " " ++ "- ? /* ?") ∧
    count ("a = ? --" ++ " " ++ "LIMIT ?") = 1 ∧
    count (Statement.ofFragments [⟨"SELECT -", []⟩, ⟨"- ?", []⟩, ⟨"? '", []⟩]).sql = 2 ∧
    count (Dialect.sqlite.quoteName "we\"ird ? --" ++ " = ?") = 1 := by
  obtain ⟨hjoin, -, hlist, hname⟩ := joined_texts_add_up
  have hclosed : ¬ Open "a = ? -" := by decide
  obtain ⟨hcount, hopen⟩ := hjoin _ hclosed "- ? /* ?"
  refine ⟨?_, hopen.2 (by decide), by decide, ?_, ?_⟩
  · rw [hcount]
    decide
  · rw [(hlist _ (by decide)).1]
    decide
  · rw [((hname .sqlite (by decide) _).2 _).1]
    decide

end Clause.Placeholder

end RecordMapper
