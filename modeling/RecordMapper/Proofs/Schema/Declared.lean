import RecordMapper.Proofs.Schema.Table
import RecordMapper.Schema.Declaration

/-!
# Declared records and their rows

Declarations by key make a family of record types. A record of a declaration that was written to a
row is read back from the stored row with every mapped field as it was and all others as in a new
record. `users` is the declaration that concrete runs are about.
-/

namespace RecordMapper

namespace Fields

open TableSchema

variable {fs : List FieldDeclaration}

/-- The descriptors of some fields, each with its column where that is not the field's own name. -/
def descriptors (fs : List FieldDeclaration) (mapped : List (Fin fs.length × Option String)) :
    List (FieldDescriptor (Fields fs)) :=
  mapped.map fun m => descriptor fs m.1 m.2

/-- A record in which the mapped fields are taken from `r` and the others from `base`. -/
def merge (mapped : List (Fin fs.length × Option String)) (r base : Fields fs) : Fields fs :=
  fun i => if i ∈ mapped.map (·.1) then r i else base i

theorem merge_cons (m : Fin fs.length × Option String)
    (mapped : List (Fin fs.length × Option String)) (r base : Fields fs) :
    merge (m :: mapped) r base = merge mapped r (base.set m.1 (r m.1)) := by
  funext i
  by_cases hm : i ∈ mapped.map (·.1)
  · simp [merge, hm]
  · by_cases hi : i = m.1
    · subst hi
      simp [merge, hm]
    · simp [merge, hm, hi, set_of_ne]

theorem fieldValues_descriptors_cons {m : Fin fs.length × Option String}
    {mapped : List (Fin fs.length × Option String)} {r : Fields fs} {vs : List Value}
    (h : fieldValues r (descriptors fs (m :: mapped)) = .ok vs) :
    ∃ v rest, fs[m.1].type.toValue (r m.1) = .ok v ∧
      fieldValues r (descriptors fs mapped) = .ok rest ∧ vs = v :: rest := by
  rw [descriptors, List.map_cons, fieldValues] at h
  split at h
  · cases h
  · next v hv =>
    split at h
    · cases h
    · next rest hrest =>
      cases h
      exact ⟨v, rest, hv, hrest, rfl⟩

theorem bindable_of_fieldValues {mapped : List (Fin fs.length × Option String)} {r : Fields fs}
    {vs : List Value} (h : fieldValues r (descriptors fs mapped) = .ok vs) :
    ∀ v ∈ vs, v.Bindable := by
  induction mapped generalizing vs with
  | nil => cases h; exact List.forall_mem_nil _
  | cons m mapped ih =>
    obtain ⟨v, rest, hv, hrest, rfl⟩ := fieldValues_descriptors_cons h
    exact List.forall_mem_cons.2 ⟨FieldType.bindable_of_toValue hv, ih hrest⟩

/-- Filling the mapped fields from the stored row of a record gives the content that they had in
it. -/
theorem fill_stored {mapped : List (Fin fs.length × Option String)}
    (ht : ∀ m ∈ mapped, fs[m.1].type.scalarType ≠ .single) {r : Fields fs} {vs : List Value}
    (h : fieldValues r (descriptors fs mapped) = .ok vs) (hn : ∀ v ∈ vs, ¬ v.IsNaN) (row : Nat)
    (base : Fields fs) :
    fill row (descriptors fs mapped) (vs.map Value.stored) base = .ok (merge mapped r base) := by
  induction mapped generalizing vs base with
  | nil => cases h; rfl
  | cons m mapped ih =>
    obtain ⟨v, rest, hv, hrest, rfl⟩ := fieldValues_descriptors_cons h
    obtain ⟨htm, ht⟩ := List.forall_mem_cons.1 ht
    obtain ⟨hnv, hn⟩ := List.forall_mem_cons.1 hn
    have hset : (descriptor fs m.1 m.2).set v.stored base = .ok (base.set m.1 (r m.1)) := by
      have hfrom := FieldType.fromValue_stored htm hv hnv
      simp only [descriptor, hfrom, Except.map]
    rw [descriptors, List.map_cons, List.map_cons, fill, hset, merge_cons]
    exact ih ht hrest hn _

end Fields

namespace Declaration

/-- The family of some declared record types. -/
def family {K : Type} [DecidableEq K] (ds : K → Declaration) : Family where
  Key := K
  Rec k := (ds k).Rec
  model k := (ds k).model

/-- What comes back of a record that was written to a row: its mapped fields, and the other fields
as in a new record. -/
def reread (D : Declaration) (r : D.Rec) : D.Rec :=
  Fields.merge D.mapped r (Fields.initial D.fields)

/-- What declared records are written in can be handed to a store. -/
theorem bindable_of_written {D : Declaration} {schema : TableSchema D.Rec}
    (hd : TableSchema.derive D.model = .ok schema) {records : List D.Rec}
    {rows : List (List Value)} (hw : schema.Written records rows) :
    ∀ row ∈ rows, ∀ v ∈ row, v.Bindable := by
  obtain rfl := Model.layout_of_derive hd
  induction hw with
  | nil => exact List.forall_mem_nil _
  | cons hr _ ih => exact List.forall_mem_cons.2 ⟨Fields.bindable_of_fieldValues hr.1, ih⟩

/-- Users with a number, a name under another column, a mark and the time of their last visit; how
often they came is not mapped. -/
def users : Declaration where
  typeName := "app::User"
  table? := some "users"
  fields := [
    { name := "id", type := .scalar (.integer .i64) },
    { name := "name", type := .scalar .text },
    { name := "active", type := .scalar .bool },
    { name := "seen", type := .optional .timestamp },
    { name := "visits", type := .scalar (.integer .u32) }]
  mapped := [
    (⟨0, by decide⟩, none),
    (⟨1, by decide⟩, some "full_name"),
    (⟨2, by decide⟩, none),
    (⟨3, by decide⟩, none)]

/-- A user who came at the epoch. -/
def ann : users.Rec
  | ⟨0, _⟩ => Bounded.zero .i64
  | ⟨1, _⟩ => "Ann"
  | ⟨2, _⟩ => true
  | ⟨3, _⟩ => some Instant.epoch
  | ⟨4, _⟩ => Bounded.zero .u32

/-- The family of users alone. -/
abbrev userFamily : Family := family fun _ : Unit => users

end Declaration

end RecordMapper
