import Mathlib.Data.List.Nodup
import Mathlib.Data.Option.Basic
import RecordMapper.Proofs.Schema.Table

/-!
# Looking up fields

A field is looked up under its name or its column, and names go first: a column that is also the
name of a field finds the field of that name. Where names are pairwise different, as the columns of
a derived schema always are, a text belongs to one field at most, and two texts belong to one field
only if they are its name and its column.
-/

namespace RecordMapper.TableSchema

/-- In a list of elements with pairwise different keys, a key finds the element that has it. -/
theorem find?_key_eq_some_iff {α : Type} {key : α → String} {l : List α} (hl : (l.map key).Nodup)
    {x : String} {a : α} : (l.find? fun b => key b == x) = some a ↔ a ∈ l ∧ key a = x := by
  constructor
  · intro h
    exact ⟨List.mem_of_find?_eq_some h, by simpa using List.find?_some h⟩
  · rintro ⟨ha, rfl⟩
    cases hb : l.find? fun b => key b == key a with
    | none =>
      have hne := List.find?_eq_none.1 hb a ha
      simp at hne
    | some b =>
      have hkey : key b = key a := by simpa using List.find?_some hb
      rw [List.inj_on_of_nodup_map hl (List.mem_of_find?_eq_some hb) ha hkey]

variable {R : Type} {s : TableSchema R} {f g : FieldDescriptor R} {x y : String}

/-- The names of the fields, in declaration order. -/
def names (s : TableSchema R) : List String :=
  s.fields.map (·.name)

/-- The text belongs to the field: it is the field's name, or it is its column and no field's
name. -/
def Belongs (s : TableSchema R) (x : String) (f : FieldDescriptor R) : Prop :=
  f ∈ s.fields ∧ (f.name = x ∨ f.column = x ∧ x ∉ s.names)

theorem mem_names (hf : f ∈ s.fields) : f.name ∈ s.names :=
  List.mem_map_of_mem hf

theorem mem_columns (hf : f ∈ s.fields) : f.column ∈ s.columns :=
  List.mem_map_of_mem hf

/-- Every name and every column of a schema belongs to some field. -/
theorem exists_belongs (h : x ∈ s.names ∨ x ∈ s.columns) : ∃ f, s.Belongs x f := by
  by_cases hx : x ∈ s.names
  · obtain ⟨f, hf, hname⟩ := List.mem_map.1 hx
    exact ⟨f, hf, .inl hname⟩
  · obtain ⟨f, hf, hcolumn⟩ := List.mem_map.1 (h.resolve_left hx)
    exact ⟨f, hf, .inr ⟨hcolumn, hx⟩⟩

/-- Two texts that belong to one field are its name and its column. -/
theorem Belongs.eq_or_name_and_column (hx : s.Belongs x f) (hy : s.Belongs y f) :
    x = y ∨ f.column ∉ s.names ∧
      (f.name = x ∧ f.column = y ∨ f.name = y ∧ f.column = x) := by
  obtain ⟨-, rfl | ⟨rfl, hx⟩⟩ := hx
  · obtain ⟨-, rfl | ⟨rfl, hy⟩⟩ := hy
    · exact .inl rfl
    · exact .inr ⟨hy, .inl ⟨rfl, rfl⟩⟩
  · obtain ⟨-, rfl | ⟨rfl, -⟩⟩ := hy
    · exact .inr ⟨hx, .inr ⟨rfl, rfl⟩⟩
    · exact .inl rfl

section Distinct

variable (hn : s.names.Nodup) (hc : s.columns.Nodup)

include hn hc

/-- What is found under a text is the field that the text belongs to. -/
theorem field?_eq_some_iff : s.field? x = some f ↔ s.Belongs x f := by
  unfold Belongs
  by_cases hx : x ∈ s.names
  · -- the field of this name is found first
    obtain ⟨g, hg, hname⟩ := List.mem_map.1 hx
    have hfind := (find?_key_eq_some_iff hn).2 ⟨hg, hname⟩
    have hfield : s.field? x = some g := by rw [field?, hfind]
    rw [hfield, ← hfind, find?_key_eq_some_iff hn]
    simp [hx]
  · have hfind : (s.fields.find? fun f => f.name == x) = none := by
      simpa [names, List.find?_eq_none] using hx
    rw [field?, hfind, find?_key_eq_some_iff hc]
    refine and_congr_right fun hf => ⟨fun hcolumn => .inr ⟨hcolumn, hx⟩, ?_⟩
    rintro (hname | ⟨hcolumn, -⟩)
    · exact absurd (hname ▸ mem_names hf) hx
    · exact hcolumn

theorem field?_name (hf : f ∈ s.fields) : s.field? f.name = some f :=
  (field?_eq_some_iff hn hc).2 ⟨hf, .inl rfl⟩

/-- A column finds its field, unless another field is named so. -/
theorem field?_column_iff (hf : f ∈ s.fields) :
    s.field? f.column = some f ↔ ∀ g ∈ s.fields, g.name = f.column → g = f := by
  constructor
  · intro h g hg hname
    have hfound := field?_name hn hc hg
    rw [hname, h] at hfound
    exact (Option.some.inj hfound).symm
  · intro h
    obtain ⟨g, hg⟩ := exists_belongs (.inr (mem_columns hf))
    rw [field?_eq_some_iff hn hc]
    obtain ⟨hmem, hname | ⟨hcolumn, hx⟩⟩ := hg
    · exact ⟨hf, .inl (h g hmem hname ▸ hname)⟩
    · exact ⟨hf, .inr ⟨rfl, hx⟩⟩

/-- The columns that pairwise different texts find are pairwise different, unless the texts give
both the name and the column of a field, the column not being the name of another field. -/
theorem nodup_found_iff {xs columns : List String}
    (h : columns.map some = xs.map fun x => (s.field? x).map (·.column)) (hxs : xs.Nodup) :
    columns.Nodup ↔ ∀ f ∈ s.fields, f.name ∈ xs → f.column ∈ xs → f.column ∈ s.names := by
  rw [← List.nodup_map_iff (Option.some_injective String), h, List.nodup_map_iff_inj_on hxs]
  constructor
  · intro hinj f hf hname hcolumn
    by_contra hx
    have hfound := (field?_eq_some_iff hn hc).2 ⟨hf, .inr ⟨rfl, hx⟩⟩
    have hsame : f.name = f.column :=
      hinj f.name hname f.column hcolumn (by rw [field?_name hn hc hf, hfound])
    exact hx (hsame ▸ mem_names hf)
  · intro hall x hx y hy hsame
    have hfound (z : String) (hz : z ∈ xs) : ∃ f, s.field? z = some f := by
      have hm : (s.field? z).map (·.column) ∈ columns.map some := h ▸ List.mem_map_of_mem hz
      obtain ⟨c, -, hc⟩ := List.mem_map.1 hm
      obtain ⟨f, hf, -⟩ := Option.map_eq_some_iff.1 hc.symm
      exact ⟨f, hf⟩
    obtain ⟨f, hf⟩ := hfound x hx
    obtain ⟨g, hg⟩ := hfound y hy
    rw [hf, hg] at hsame
    obtain rfl : f = g := List.inj_on_of_nodup_map hc (mem_of_field? hf) (mem_of_field? hg)
      (Option.some.inj hsame)
    rcases ((field?_eq_some_iff hn hc).1 hf).eq_or_name_and_column
      ((field?_eq_some_iff hn hc).1 hg) with heq | ⟨hnot, ⟨rfl, rfl⟩ | ⟨rfl, rfl⟩⟩
    · exact heq
    · exact absurd (hall f (mem_of_field? hf) hx hy) hnot
    · exact absurd (hall f (mem_of_field? hf) hy hx) hnot

end Distinct

end RecordMapper.TableSchema
