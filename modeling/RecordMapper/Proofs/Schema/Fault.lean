import Mathlib.Data.List.Nodup
import RecordMapper.Schema.Declaration
import RecordMapper.Schema.Table

/-!
# The faults of models

A model has a schema exactly if it names a table and maps some fields, all of which have a name and
a column of their own. Otherwise it is refused for its first fault: `FieldFault` is what can be
wrong with a field where some columns are taken, and `Model.FirstFault` says which of the faults of
a model comes first. Going through the fields takes the columns of those that are good, so behind
them a column is taken however far ahead it was mapped.
-/

namespace RecordMapper

variable {R : Type}

namespace TableSchema

/-- The fields have names and columns, and the columns differ from each other and from those that
are taken. -/
structure Fresh (taken : List String) (fs : List (FieldDescriptor R)) : Prop where
  named : ∀ f ∈ fs, f.name ≠ "" ∧ f.column ≠ ""
  distinct : (fs.map (·.column)).Nodup
  free : ∀ f ∈ fs, f.column ∉ taken

/-- What is wrong with a field where some columns are taken. That a name is missing is told even if
the column is taken. -/
inductive FieldFault (taken : List String) (f : FieldDescriptor R) : ModelFault → Prop
  | unnamed (h : f.name = "" ∨ f.column = "") : FieldFault taken f .emptyName
  | repeated (hname : f.name ≠ "") (hcolumn : f.column ≠ "") (h : f.column ∈ taken) :
    FieldFault taken f (.repeatedColumn f.column)

variable {taken : List String} {f : FieldDescriptor R} {fs : List (FieldDescriptor R)}
  {fault : ModelFault}

theorem fresh_nil (taken : List String) : Fresh taken ([] : List (FieldDescriptor R)) :=
  ⟨nofun, List.nodup_nil, nofun⟩

theorem fresh_cons_iff :
    Fresh taken (f :: fs) ↔
      (f.name ≠ "" ∧ f.column ≠ "" ∧ f.column ∉ taken) ∧ Fresh (f.column :: taken) fs := by
  constructor
  · rintro ⟨hnamed, hdistinct, hfree⟩
    obtain ⟨⟨hname, hcolumn⟩, hnamed⟩ := List.forall_mem_cons.1 hnamed
    obtain ⟨hf, hfree⟩ := List.forall_mem_cons.1 hfree
    rw [List.map_cons, List.nodup_cons] at hdistinct
    refine ⟨⟨hname, hcolumn, hf⟩, hnamed, hdistinct.2, fun g hg hm => ?_⟩
    rcases List.mem_cons.1 hm with he | hm
    · exact hdistinct.1 (he ▸ List.mem_map_of_mem hg)
    · exact hfree g hg hm
  · rintro ⟨⟨hname, hcolumn, hf⟩, hnamed, hdistinct, hfree⟩
    refine ⟨List.forall_mem_cons.2 ⟨⟨hname, hcolumn⟩, hnamed⟩, ?_, List.forall_mem_cons.2
      ⟨hf, fun g hg hm => hfree g hg (List.mem_cons_of_mem _ hm)⟩⟩
    rw [List.map_cons, List.nodup_cons]
    refine ⟨fun hm => ?_, hdistinct⟩
    obtain ⟨g, hg, he⟩ := List.mem_map.1 hm
    exact hfree g hg (he ▸ List.mem_cons_self)

theorem FieldFault.mono {taken' : List String} (h : FieldFault taken f fault)
    (hs : taken ⊆ taken') : FieldFault taken' f fault := by
  cases h with
  | unnamed h => exact .unnamed h
  | repeated hname hcolumn h => exact .repeated hname hcolumn (hs h)

/-- A field is good or has a fault. -/
theorem free_or_fieldFault (taken : List String) (f : FieldDescriptor R) :
    (f.name ≠ "" ∧ f.column ≠ "" ∧ f.column ∉ taken) ∨ ∃ fault, FieldFault taken f fault := by
  by_cases hname : f.name = "" ∨ f.column = ""
  · exact .inr ⟨_, .unnamed hname⟩
  · obtain ⟨hname, hcolumn⟩ := not_or.1 hname
    by_cases hf : f.column ∈ taken
    · exact .inr ⟨_, .repeated hname hcolumn hf⟩
    · exact .inl ⟨hname, hcolumn, hf⟩

/-! ## Going through the fields -/

theorem fieldFault?_of_free (h : f.name ≠ "" ∧ f.column ≠ "" ∧ f.column ∉ taken)
    (fs : List (FieldDescriptor R)) :
    fieldFault? taken (f :: fs) = fieldFault? (f.column :: taken) fs := by
  rw [fieldFault?, if_neg (not_or.2 ⟨h.1, h.2.1⟩), if_neg h.2.2]

theorem FieldFault.fieldFault?_eq (h : FieldFault taken f fault) (fs : List (FieldDescriptor R)) :
    fieldFault? taken (f :: fs) = some fault := by
  cases h with
  | unnamed h => rw [fieldFault?, if_pos h]
  | repeated hname hcolumn h =>
    rw [fieldFault?, if_neg (not_or.2 ⟨hname, hcolumn⟩), if_pos h]

/-- Behind fields that are good their columns are taken, the last one first. -/
theorem Fresh.fieldFault?_append {ahead : List (FieldDescriptor R)} (h : Fresh taken ahead)
    (fs : List (FieldDescriptor R)) :
    fieldFault? taken (ahead ++ fs) =
      fieldFault? ((ahead.map (·.column)).reverse ++ taken) fs := by
  induction ahead generalizing taken with
  | nil => rfl
  | cons f ahead ih =>
    obtain ⟨hf, hahead⟩ := fresh_cons_iff.1 h
    rw [List.cons_append, fieldFault?_of_free hf, ih hahead, List.map_cons, List.reverse_cons,
      List.append_assoc, List.singleton_append]

/-- The fields are all good, or one of them is the first with a fault. -/
theorem fresh_or_first_fault (taken : List String) (fs : List (FieldDescriptor R)) :
    Fresh taken fs ∨ ∃ ahead f behind fault, fs = ahead ++ f :: behind ∧ Fresh taken ahead ∧
      FieldFault ((ahead.map (·.column)).reverse ++ taken) f fault := by
  induction fs generalizing taken with
  | nil => exact .inl (fresh_nil taken)
  | cons f fs ih =>
    rcases free_or_fieldFault taken f with hf | ⟨fault, hfault⟩
    · rcases ih (f.column :: taken) with hfs | ⟨ahead, g, behind, fault, rfl, ha, hfault⟩
      · exact .inl (fresh_cons_iff.2 ⟨hf, hfs⟩)
      · refine .inr ⟨f :: ahead, g, behind, fault, rfl, fresh_cons_iff.2 ⟨hf, ha⟩, ?_⟩
        rwa [List.map_cons, List.reverse_cons, List.append_assoc, List.singleton_append]
    · exact .inr ⟨[], f, fs, fault, rfl, fresh_nil taken, hfault⟩

theorem Fresh.fieldFault?_eq (h : Fresh taken fs) : fieldFault? taken fs = none := by
  rw [← List.append_nil fs, h.fieldFault?_append, fieldFault?]

end TableSchema

/-! ## The first fault of a model -/

/-- What a model has to be for a schema. -/
structure Model.Valid (m : Model R) : Prop where
  table : m.tableName ≠ ""
  fields : m.fields ≠ []
  named : ∀ f ∈ m.fields, f.name ≠ "" ∧ f.column ≠ ""
  distinct : (m.fields.map (·.column)).Nodup

/-- The fault that a model is refused for. The table comes before the fields, and the first field
that has a fault before those behind it; the fields ahead of it have names and different columns. -/
inductive Model.FirstFault (m : Model R) : ModelFault → Prop
  | table (h : m.tableName = "") : m.FirstFault .emptyTable
  | fields (htable : m.tableName ≠ "") (h : m.fields = []) : m.FirstFault .noFields
  | field (htable : m.tableName ≠ "") (ahead : List (FieldDescriptor R)) (f : FieldDescriptor R)
    (behind : List (FieldDescriptor R)) (hfields : m.fields = ahead ++ f :: behind)
    (hnamed : ∀ g ∈ ahead, g.name ≠ "" ∧ g.column ≠ "")
    (hdistinct : (ahead.map (·.column)).Nodup) {fault : ModelFault}
    (h : TableSchema.FieldFault (ahead.map (·.column)) f fault) : m.FirstFault fault

theorem Model.FirstFault.ne_foreignSchema {m : Model R} {fault : ModelFault}
    (h : m.FirstFault fault) : fault ≠ .foreignSchema := by
  rintro rfl
  cases h with
  | field _ _ _ _ _ _ _ h => cases h

namespace TableSchema

variable {m : Model R} {fault : ModelFault}

theorem fault?_of_valid (h : m.Valid) : fault? m = none := by
  have hfresh : Fresh [] m.fields := ⟨h.named, h.distinct, fun _ _ => List.not_mem_nil⟩
  rw [fault?, if_neg h.table, if_neg (fun he => h.fields (List.isEmpty_iff.1 he)),
    hfresh.fieldFault?_eq]

theorem fault?_of_firstFault (h : m.FirstFault fault) : fault? m = some fault := by
  cases h with
  | table h => rw [fault?, if_pos h]
  | fields htable h => rw [fault?, if_neg htable, if_pos (List.isEmpty_iff.2 h)]
  | field htable ahead f behind hfields hnamed hdistinct h =>
    have hfresh : Fresh [] ahead := ⟨hnamed, hdistinct, fun _ _ => List.not_mem_nil⟩
    have hne : ¬ m.fields.isEmpty := by
      rw [hfields]
      simp
    have hfault : FieldFault ((ahead.map (·.column)).reverse ++ []) f fault := h.mono fun c hc => by
      rwa [List.append_nil, List.mem_reverse]
    rw [fault?, if_neg htable, if_neg hne, hfields, hfresh.fieldFault?_append,
      hfault.fieldFault?_eq]

theorem valid_or_firstFault (m : Model R) : m.Valid ∨ ∃ fault, m.FirstFault fault := by
  by_cases htable : m.tableName = ""
  · exact .inr ⟨_, .table htable⟩
  by_cases hfields : m.fields = []
  · exact .inr ⟨_, .fields htable hfields⟩
  rcases fresh_or_first_fault [] m.fields with h | ⟨ahead, f, behind, fault, hsplit, ha, hf⟩
  · exact .inl ⟨htable, hfields, h.named, h.distinct⟩
  · refine .inr ⟨fault, .field htable ahead f behind hsplit ha.named ha.distinct ?_⟩
    refine hf.mono fun c hc => ?_
    rwa [List.append_nil, List.mem_reverse] at hc

theorem derive_of_valid (h : m.Valid) : derive m = .ok ⟨m.tableName, m.fields⟩ := by
  rw [derive, fault?_of_valid h]

theorem derive_of_firstFault (h : m.FirstFault fault) :
    derive m = .error (.invalidModel m.typeName fault) := by
  rw [derive, fault?_of_firstFault h]

theorem derive_eq_ok_iff {s : TableSchema R} :
    derive m = .ok s ↔ m.Valid ∧ s = ⟨m.tableName, m.fields⟩ := by
  constructor
  · intro h
    rcases valid_or_firstFault m with hm | ⟨fault, hm⟩
    · exact ⟨hm, Except.ok.inj (h.symm.trans (derive_of_valid hm))⟩
    · cases h.symm.trans (derive_of_firstFault hm)
  · rintro ⟨hm, rfl⟩
    exact derive_of_valid hm

theorem derive_eq_error_iff {err : Error} :
    derive m = .error err ↔
      ∃ fault, m.FirstFault fault ∧ err = .invalidModel m.typeName fault := by
  constructor
  · intro h
    rcases valid_or_firstFault m with hm | ⟨fault, hm⟩
    · cases h.symm.trans (derive_of_valid hm)
    · exact ⟨fault, hm, Except.error.inj (h.symm.trans (derive_of_firstFault hm))⟩
  · rintro ⟨fault, hm, rfl⟩
    exact derive_of_firstFault hm

/-- Deriving a schema is exact. It succeeds for just those models that name a table, map some
fields and give each of them a name and a column of its own, and the schema has that table and those
fields in that order. Any other model is refused for its first fault, and where that is a column
mapped twice the message names the column. -/
theorem derive_reports_first_fault (m : Model R) :
    ((∃ s, derive m = .ok s) ↔ m.tableName ≠ "" ∧ m.fields ≠ [] ∧
      (∀ f ∈ m.fields, f.name ≠ "" ∧ f.column ≠ "") ∧ (m.fields.map (·.column)).Nodup) ∧
    (∀ s, derive m = .ok s →
      s.name = m.tableName ∧ s.fields = m.fields ∧ s.width = m.fields.length) ∧
    (∀ err, derive m = .error err ↔
      ∃ fault, m.FirstFault fault ∧ err = .invalidModel m.typeName fault) ∧
    ∀ column, m.FirstFault (.repeatedColumn column) → ∃ err, derive m = .error err ∧
      err.message =
        "Invalid model " ++ m.typeName ++ ": " ++ ("column " ++ column ++ " is mapped twice") := by
  refine ⟨⟨?_, ?_⟩, ?_, fun err => derive_eq_error_iff, fun column h => ?_⟩
  · rintro ⟨s, hs⟩
    obtain ⟨hm, -⟩ := derive_eq_ok_iff.1 hs
    exact ⟨hm.table, hm.fields, hm.named, hm.distinct⟩
  · rintro ⟨htable, hfields, hnamed, hdistinct⟩
    exact ⟨_, derive_of_valid ⟨htable, hfields, hnamed, hdistinct⟩⟩
  · intro s hs
    obtain ⟨-, rfl⟩ := derive_eq_ok_iff.1 hs
    exact ⟨rfl, rfl, rfl⟩
  · exact ⟨_, derive_of_firstFault h, rfl⟩

/-- A column that comes again behind another one is told before a name that is missing behind it;
where both faults are at one field, the missing name is told. -/
theorem derive_reports_first_fault_clash :
    let fields : List FieldDeclaration := [
      { name := "a", type := .scalar .text }, { name := "b", type := .scalar .text },
      { name := "", type := .scalar .text }]
    let model (mapped : List (Fin fields.length × Option String)) :=
      Declaration.model ⟨"app::Clash", none, fields, mapped⟩
    (∃ err, derive (model [(0, some "x"), (1, none), (1, some "x"), (2, none)]) = .error err ∧
      err.message = "Invalid model app::Clash: column x is mapped twice") ∧
    derive (model [(0, some "x"), (1, none), (2, some "x")]) =
      .error (.invalidModel "app::Clash" .emptyName) := by
  intro fields model
  obtain ⟨-, -, -, hrepeated⟩ :=
    derive_reports_first_fault (model [(0, some "x"), (1, none), (1, some "x"), (2, none)])
  obtain ⟨-, -, hfirst, -⟩ :=
    derive_reports_first_fault (model [(0, some "x"), (1, none), (2, some "x")])
  have hahead : ∀ g ∈ [Fields.descriptor fields 0 (some "x"), Fields.descriptor fields 1 none],
      g.name ≠ "" ∧ g.column ≠ "" := by
    simp only [List.forall_mem_cons]
    exact ⟨by decide, by decide, List.forall_mem_nil _⟩
  constructor
  · exact hrepeated "x" (.field (by decide) _ (Fields.descriptor fields 1 (some "x")) _ rfl hahead
      (by decide) (.repeated (by decide) (by decide) (by decide)))
  · exact (hfirst _).2 ⟨_, .field (by decide) _ (Fields.descriptor fields 2 (some "x")) [] rfl
      hahead (by decide) (.unnamed (by decide)), rfl⟩

end TableSchema

end RecordMapper
