import RecordMapper.Proofs.Clause.Fragment

/-!
# Outlines of clauses

The outline of a clause is the clause with its values blotted out. A clause that renders has the
text of its outline and as many parameters, so clauses of one outline cannot be told apart by their
texts, and neither can statements that are made of such clauses.
-/

namespace RecordMapper

/-- What a fragment shows without its values: its text and the number of its parameters. -/
def Fragment.form (f : Fragment) : String × Nat :=
  (f.sql, f.params.length)

/-- What a statement shows without its values: its text and the number of its parameters. -/
def Statement.form (st : Statement) : String × Nat :=
  (st.sql, st.params.length)

/-- The form of a statement is put together from the forms of its fragments. -/
theorem Statement.form_ofFragments {fs gs : List Fragment}
    (h : fs.map Fragment.form = gs.map Fragment.form) :
    (ofFragments fs).form = (ofFragments gs).form := by
  have hsql : fs.map Fragment.sql = gs.map Fragment.sql := by
    have h₁ := congrArg (List.map Prod.fst) h
    rwa [List.map_map, List.map_map] at h₁
  have hlen : fs.map (·.params.length) = gs.map (·.params.length) := by
    have h₂ := congrArg (List.map Prod.snd) h
    rwa [List.map_map, List.map_map] at h₂
  simp only [form, ofFragments, hsql, List.length_flatMap, hlen]

namespace Clause

/-- The clause with its values blotted out. -/
def outline : Clause → Clause
  | values rows => .values (rows.map fun row => row.map fun _ => .null)
  | filter condition params => .filter condition (params.map fun _ => .null)
  | limit _ => .limit (.zero _)
  | update table assignments => .update table (assignments.map fun a => (a.1, .null))
  | insert table columns => .insert table columns
  | select table columns => .select table columns
  | count table => .count table
  | order ordering => .order ordering
  | delete table => .delete table

@[simp]
theorem kind_outline (c : Clause) : c.outline.kind = c.kind := by
  cases c <;> rfl

theorem outline_values {rows : List (List Value)} {width : Nat}
    (h : ∀ row ∈ rows, row.length = width) :
    (values rows).outline =
      .values (List.replicate rows.length (List.replicate width .null)) := by
  have hrow : ∀ row ∈ rows, (row.map fun _ => Value.null) = List.replicate width .null := by
    intro row hr
    rw [List.map_const', h row hr]
  rw [outline, List.map_congr_left hrow, List.map_const']

/-- A clause has the form of its outline. -/
theorem fragment_outline {d : Dialect} {c : Clause} {f : Fragment} (h : c.fragment d = .ok f) :
    ∃ g, c.outline.fragment d = .ok g ∧ g.form = f.form := by
  cases c with
  | insert | select | count | order | delete => exact ⟨f, h, rfl⟩
  | values rows =>
    obtain ⟨hn, width, hw, hall, rfl⟩ := fragment_values.1 h
    refine ⟨_, fragment_values.2 ⟨by simpa using hn, width, hw, ?_, rfl⟩, ?_⟩
    · intro row hr
      obtain ⟨row', hr', rfl⟩ := List.mem_map.1 hr
      rw [List.length_map, hall row' hr']
    · simp [Fragment.form, List.length_flatten, Function.comp_def]
  | filter condition params =>
    obtain ⟨hc, hn, rfl⟩ := fragment_filter.1 h
    refine ⟨_, fragment_filter.2 ⟨hc, by rw [hn, List.length_map], rfl⟩, ?_⟩
    rw [Fragment.form, List.length_map]
    rfl
  | limit n =>
    obtain ⟨i, -, rfl⟩ := fragment_limit.1 h
    exact ⟨_, fragment_limit.2 ⟨_, rfl, rfl⟩, rfl⟩
  | update table assignments =>
    obtain ⟨ht, hn, he, rfl⟩ := fragment_update.1 h
    have hnames : (assignments.map fun a => (a.1, Value.null)).map (·.1) =
        assignments.map (·.1) := by
      rw [List.map_map]
      rfl
    refine ⟨_, fragment_update.2 ⟨ht, by simpa using hn, hnames ▸ he, rfl⟩, ?_⟩
    simp only [Fragment.form, List.map_map, List.length_map]
    rfl

theorem render_outline {d : Dialect} {c : Clause} {f : Fragment} (h : c.render d = .ok f) :
    ∃ g, c.outline.render d = .ok g ∧ g.form = f.form := by
  obtain ⟨g, hg, hform⟩ := fragment_outline (fragment_of_render h)
  exact ⟨g, render_eq_ok_iff.2 hg, hform⟩

/-- Clauses of one outline that render have fragments of one form. -/
theorem form_eq_of_outline_eq {d : Dialect} {b c : Clause} (h : b.outline = c.outline)
    {f g : Fragment} (hf : b.render d = .ok f) (hg : c.render d = .ok g) : f.form = g.form := by
  obtain ⟨f', hf', hform⟩ := render_outline hf
  obtain ⟨g', hg', hform'⟩ := render_outline hg
  rw [h] at hf'
  cases hf'.symm.trans hg'
  exact hform.symm.trans hform'

end Clause

end RecordMapper
