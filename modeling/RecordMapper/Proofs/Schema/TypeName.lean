import RecordMapper.Schema.TypeName

/-!
# Tables named after types

A type name is cut at its first angle bracket, and what is left at its last two colons. A table is
thus named after the last segment of a type name as long as the segments before it have no
arguments. Otherwise its name is that of the first segment that has some, and nothing behind this
segment is looked at.
-/

namespace RecordMapper

namespace Model

variable {c : Char} {cs path segment : List Char}

theorem beforeColons_cons (hc : c ≠ ':') (cs : List Char) :
    beforeColons (c :: cs) = c :: beforeColons cs :=
  beforeColons.eq_2 c cs fun _ h _ => hc h

/-- By induction on what holds no colon: it is kept, whether colons follow or not. -/
theorem beforeColons_append (hcs : ':' ∉ cs) (rest : List Char) :
    beforeColons (cs ++ ':' :: ':' :: rest) = cs := by
  induction cs with
  | nil => rfl
  | cons c cs ih =>
    obtain ⟨hc, hcs⟩ := not_or.1 (mt List.mem_cons.2 hcs)
    rw [List.cons_append, beforeColons_cons (Ne.symm hc), ih hcs]

theorem beforeColons_of_notMem (hcs : ':' ∉ cs) : beforeColons cs = cs := by
  induction cs with
  | nil => rfl
  | cons c cs ih =>
    obtain ⟨hc, hcs⟩ := not_or.1 (mt List.mem_cons.2 hcs)
    rw [beforeColons_cons (Ne.symm hc), ih hcs]

/-- What stands before a segment: nothing, or segments that end with two colons. -/
def Leads (path : List Char) : Prop :=
  path = [] ∨ ∃ outer, path = outer ++ [':', ':']

theorem lastSegment_append (hp : Leads path) (hs : ':' ∉ segment) :
    lastSegment (path ++ segment) = segment := by
  have hrev : ':' ∉ segment.reverse := mt List.mem_reverse.1 hs
  rw [lastSegment, List.reverse_append]
  rcases hp with rfl | ⟨outer, rfl⟩
  · rw [List.reverse_nil, List.append_nil, beforeColons_of_notMem hrev, List.reverse_reverse]
  · rw [List.reverse_append]
    change (beforeColons (segment.reverse ++ ':' :: ':' :: outer.reverse)).reverse = segment
    rw [beforeColons_append hrev, List.reverse_reverse]

end Model

namespace TypeName

open Model (Leads lastSegment lastSegment_append)

/-- A text without the characters that tell segments and arguments apart. -/
structure Identifier (s : String) : Prop where
  angle : '<' ∉ s.toList
  colon : ':' ∉ s.toList

/-- The segments of the path are called by identifiers. Nothing is asked of the arguments. -/
def WellFormed : TypeName → Prop
  | .path outer last _ => (∀ segment ∈ outer, Identifier segment.1) ∧ Identifier last

/-- The identifier of the first segment with arguments, or of the last segment if there is none. -/
def cut : TypeName → String
  | .path outer last _ =>
    ((outer.find? fun segment => !segment.2.isEmpty).map Prod.fst).getD last

variable {outer : List (String × List TypeName)} {name last : String}
  {arguments : List TypeName} {before : List Char}

theorem takeWhile_identifier (hn : Identifier name) (rest : List Char) :
    (name.toList ++ rest).takeWhile (· != '<') = name.toList ++ rest.takeWhile (· != '<') := by
  refine List.takeWhile_append_of_pos fun c hc => bne_iff_ne.2 ?_
  rintro rfl
  exact hn.angle hc

/-- By induction on the segments before the last one, with what stands before them at the side: a
segment without arguments goes there, and one with arguments ends the induction. -/
theorem lastSegment_takeWhile (hp : Leads before) (ho : ∀ segment ∈ outer, Identifier segment.1)
    (hl : Identifier last) :
    lastSegment (before ++ (text (.path outer last arguments)).toList.takeWhile (· != '<')) =
      (cut (.path outer last arguments)).toList := by
  induction outer generalizing before with
  | nil =>
    have htext : (text (.path [] last arguments)).toList =
        last.toList ++ (argumentsText arguments).toList := by
      simp only [text, outerText, String.empty_append, String.toList_append]
    have hend : (argumentsText arguments).toList.takeWhile (· != '<') = [] := by
      cases arguments <;> simp [argumentsText]
    rw [htext, takeWhile_identifier hl, hend, List.append_nil, lastSegment_append hp hl.colon]
    rfl
  | cons segment outer ih =>
    obtain ⟨hn, houter⟩ := List.forall_mem_cons.1 ho
    obtain ⟨name, _ | ⟨t, ts⟩⟩ := segment
    · have htext : (text (.path ((name, []) :: outer) last arguments)).toList =
          name.toList ++ ':' :: ':' :: (text (.path outer last arguments)).toList := by
        simp [text, outerText, argumentsText]
      have hpath : Leads (before ++ name.toList ++ [':', ':']) := .inr ⟨_, rfl⟩
      have h := ih hpath houter
      rw [htext, takeWhile_identifier hn]
      simpa [cut] using h
    · have htext : (text (.path ((name, t :: ts) :: outer) last arguments)).toList.takeWhile
          (· != '<') = name.toList := by
        simp only [text, outerText, argumentsText, String.toList_append, List.append_assoc]
        rw [takeWhile_identifier hn]
        simp
      rw [htext, lastSegment_append hp hn.colon]
      rfl

/-- The table that a type names by default. -/
theorem defaultTable_text {t : TypeName} (ht : t.WellFormed) :
    Model.defaultTable t.text = t.cut := by
  obtain ⟨outer, last, arguments⟩ := t
  rw [Model.defaultTable, ← List.nil_append (List.takeWhile _ _),
    lastSegment_takeWhile (.inl rfl) ht.1 ht.2, String.ofList_toList]

/-- The table is named after the last segment just if no segment before it has arguments or the
first that has some is called like the last. -/
theorem defaultTable_text_eq_last_iff (ht : (path outer last arguments).WellFormed) :
    Model.defaultTable (text (path outer last arguments)) = last ↔
      ∀ segment, (outer.find? fun segment => !segment.2.isEmpty) = some segment →
        segment.1 = last := by
  rw [defaultTable_text ht, cut]
  cases outer.find? fun segment => !segment.2.isEmpty <;> simp

/-- A type that is declared inside a method of a generic type. -/
example :
    let entry : TypeName :=
      path [("app", []), ("Stack", [path [] "T" []]), ("push", [])] "Entry" []
    entry.text = "app::Stack<T>::push::Entry" ∧ entry.last = "Entry" ∧
      Model.defaultTable entry.text = "Stack" := by
  decide

end TypeName

end RecordMapper
