import RecordMapper.Schema.Registry

/-!
# Sound registries

A registry is sound when every schema in it stands under the type that it was derived for and is
the one that deriving gives. The empty registry is sound and asking for a schema keeps a registry
sound, so the answer of `Registry.model` is always the one that deriving would give: a caller
cannot tell a cached schema from a fresh one.
-/

namespace RecordMapper

namespace Model

variable {R : Type}

/-- The table and the fields of a model, as it declares them. -/
def layout (m : Model R) : TableSchema R :=
  ⟨m.tableName, m.fields⟩

theorem layout_of_derive {m : Model R} {s : TableSchema R} (h : TableSchema.derive m = .ok s) :
    s = m.layout := by
  unfold TableSchema.derive at h
  split at h
  · cases h
  · exact (Except.ok.inj h).symm

end Model

namespace Registry

variable {F : Family}

/-- Every entry holds the derived schema of its type. -/
def Sound (r : Registry F) : Prop :=
  ∀ e ∈ r.entries, e.2.key = e.1 ∧ TableSchema.derive (F.model e.2.key) = .ok e.2.shared.schema

theorem sound_empty : (empty : Registry F).Sound := by
  intro e he
  cases he

theorem mem_entries {r : Registry F} {k : F.Key} {s : AnySchema F} (h : r.entry? k = some s) :
    (k, s) ∈ r.entries := by
  obtain ⟨e, he, rfl⟩ := Option.map_eq_some_iff.1 h
  have hk : e.1 = k := by simpa using List.find?_some he
  subst hk
  exact List.mem_of_find?_eq_some he

/-- A sound registry finds the schema of a type wherever it has an entry for it. -/
theorem Sound.accept {r : Registry F} (hr : r.Sound) {k : F.Key} {held : AnySchema F}
    (h : r.entry? k = some held) :
    ∃ s, held.as? k = some s ∧ TableSchema.derive (F.model k) = .ok s.schema := by
  obtain ⟨hk, hd⟩ := hr _ (mem_entries h)
  obtain ⟨key, shared⟩ := held
  simp only at hk hd
  subst hk
  exact ⟨shared, AnySchema.as?_mk _ _, hd⟩

theorem Sound.lookup?_none {r : Registry F} (hr : r.Sound) {k : F.Key}
    (h : r.lookup? k = none) : r.entry? k = none := by
  cases he : r.entry? k with
  | none => rfl
  | some held =>
    obtain ⟨s, hs, -⟩ := hr.accept he
    simp [lookup?, he, hs] at h

theorem Sound.derive_of_lookup? {r : Registry F} (hr : r.Sound) {k : F.Key}
    {s : Shared (TableSchema (F.Rec k))} (h : r.lookup? k = some s) :
    TableSchema.derive (F.model k) = .ok s.schema := by
  obtain ⟨held, he, has⟩ := Option.bind_eq_some_iff.1 h
  obtain ⟨s', hs', hd⟩ := hr.accept he
  cases has.symm.trans hs'
  exact hd

theorem Sound.add {r : Registry F} (hr : r.Sound) {k : F.Key} {n : Nat}
    {s : Shared (TableSchema (F.Rec k))} (h : TableSchema.derive (F.model k) = .ok s.schema) :
    Sound ⟨r.entries ++ [(k, ⟨k, s⟩)], n⟩ := by
  intro e he
  rcases List.mem_append.1 he with he | he
  · exact hr e he
  · cases List.mem_singleton.1 he
    exact ⟨rfl, h⟩

/-- The schema that a sound registry gives is the derived one, and the registry stays sound. -/
theorem Sound.model {r : Registry F} (hr : r.Sound) (k : F.Key) :
    (r.model k).1.map (fun o => o.shared.schema) = TableSchema.derive (F.model k) ∧
      (r.model k).2.Sound := by
  unfold Registry.model
  cases hl : r.lookup? k with
  | some s => exact ⟨(hr.derive_of_lookup? hl).symm, hr⟩
  | none =>
    have he := hr.lookup?_none hl
    cases hd : TableSchema.derive (F.model k) with
    | error e =>
      simp only [derive, hd]
      exact ⟨rfl, hr⟩
    | ok schema =>
      -- deriving draws a serial number, so the entry is looked up in the registry with the next one
      have he' : Registry.entry? ⟨r.entries, r.nextSerial + 1⟩ k = none := he
      simp only [derive, hd, publish, he', Registry.accept, AnySchema.as?_mk]
      exact ⟨rfl, hr.add hd⟩

end Registry

end RecordMapper
