import RecordMapper.Proofs.Schema.Fault
import RecordMapper.Proofs.Schema.Registry
import RecordMapper.Proofs.Traversal
import RecordMapper.Proofs.Value.Stored

/-!
# Well-formed schemas

A schema that was derived has a name, fields and pairwise different columns, none of which is
empty. So every row of values can be told apart by column, and the columns and rows of a schema can
always be written. `Written` relates records to the rows that they are written in; records of which
some field has no column form are not written at all, and `FirstFault` says which field that is.
-/

namespace RecordMapper.TableSchema

variable {R : Type}

/-- What deriving a schema checks. -/
structure WellFormed (s : TableSchema R) : Prop where
  name : s.name ≠ ""
  fields : s.fields ≠ []
  columns : "" ∉ s.columns
  distinct : s.columns.Nodup

theorem WellFormed.columns_ne_nil {s : TableSchema R} (h : s.WellFormed) : s.columns ≠ [] :=
  fun hn => h.fields (List.map_eq_nil_iff.1 hn)

theorem WellFormed.width_ne_zero {s : TableSchema R} (h : s.WellFormed) : s.columns.length ≠ 0 :=
  fun hz => h.columns_ne_nil (List.length_eq_zero_iff.1 hz)

theorem wellFormed_of_derive {m : Model R} {s : TableSchema R} (h : derive m = .ok s) :
    s.WellFormed := by
  obtain ⟨hm, rfl⟩ := derive_eq_ok_iff.1 h
  refine ⟨hm.table, hm.fields, fun hc => ?_, hm.distinct⟩
  obtain ⟨f, hf, hcolumn⟩ := List.mem_map.1 hc
  exact (hm.named f hf).2 hcolumn

/-- What is found under a name is a field of the schema. -/
theorem mem_of_field? {s : TableSchema R} {name : String} {f : FieldDescriptor R}
    (h : s.field? name = some f) : f ∈ s.fields := by
  unfold field? at h
  split at h
  · next g hg =>
    cases h
    exact List.mem_of_find?_eq_some hg
  · exact List.mem_of_find?_eq_some h

/-- A schema that cannot be derived is refused for a fault of the model itself. -/
theorem fault_of_derive {m : Model R} {err : Error} (h : derive m = .error err) :
    ∃ fault, err = .invalidModel m.typeName fault ∧ fault ≠ .foreignSchema := by
  obtain ⟨fault, hm, rfl⟩ := derive_eq_error_iff.1 h
  exact ⟨fault, rfl, hm.ne_foreignSchema⟩

/-! ## The values of records -/

/-- The column form of one field of a record. -/
def fieldValue (r : R) (f : FieldDescriptor R) : Except Error Value :=
  (f.get r).mapError (.bind f.column)

section Fields

variable {r : R} {f : FieldDescriptor R} {fs : List (FieldDescriptor R)} {vs : List Value}

theorem fieldValue_eq_ok_iff {v : Value} : fieldValue r f = .ok v ↔ f.get r = .ok v := by
  unfold fieldValue
  cases f.get r <;> simp [Except.mapError]

theorem fieldValue_eq_error_iff {err : Error} :
    fieldValue r f = .error err ↔ ∃ cause, f.get r = .error cause ∧ err = .bind f.column cause := by
  unfold fieldValue
  cases f.get r <;> simp [Except.mapError, eq_comm]

theorem fieldValues_eq_mapM (r : R) (fs : List (FieldDescriptor R)) :
    fieldValues r fs = fs.mapM (fieldValue r) := by
  induction fs with
  | nil => rfl
  | cons f fs ih =>
    rw [fieldValues, List.mapM_cons, ← ih, fieldValue]
    cases f.get r with
    | error cause => rfl
    | ok v => cases fieldValues r fs <;> rfl

theorem length_fieldValues (h : fieldValues r fs = .ok vs) : vs.length = fs.length := by
  rw [fieldValues_eq_mapM] at h
  exact (mapM_eq_ok_iff.1 h).length_eq.symm

/-- Every one of the fields has a column form in the record. -/
def Writable (r : R) (fs : List (FieldDescriptor R)) : Prop :=
  ∀ f ∈ fs, ∃ v, f.get r = .ok v

theorem exists_fieldValues_iff : (∃ vs, fieldValues r fs = .ok vs) ↔ Writable r fs := by
  simp only [fieldValues_eq_mapM, exists_mapM_iff, fieldValue_eq_ok_iff, Writable]

end Fields

/-- The records are written in the rows, and every real among the values is a number. -/
def Written (s : TableSchema R) : List R → List (List Value) → Prop :=
  List.Forall₂ fun r row => s.recordValues r = .ok row ∧ ∀ v ∈ row, ¬ v.IsNaN

variable {s : TableSchema R} {records : List R} {rows : List (List Value)}

theorem exists_written
    (h : ∀ r ∈ records, ∃ row, s.recordValues r = .ok row ∧ ∀ v ∈ row, ¬ v.IsNaN) :
    ∃ rows, s.Written records rows := by
  induction records with
  | nil => exact ⟨[], .nil⟩
  | cons r records ih =>
    obtain ⟨⟨row, hr⟩, hrecords⟩ := List.forall_mem_cons.1 h
    obtain ⟨rows, hrows⟩ := ih hrecords
    exact ⟨row :: rows, .cons hr hrows⟩

theorem Written.mapM_recordValues (h : s.Written records rows) :
    records.mapM s.recordValues = .ok rows :=
  mapM_eq_ok_iff.2 (h.imp fun _ _ hr => hr.1)

/-- There is one row for each record, with one value for each column. -/
theorem lengths_of_mapM_recordValues (h : records.mapM s.recordValues = .ok rows) :
    rows.length = records.length ∧ ∀ row ∈ rows, row.length = s.columns.length := by
  have hall := mapM_eq_ok_iff.1 h
  refine ⟨hall.length_eq.symm, ?_⟩
  clear h
  induction hall with
  | nil => exact List.forall_mem_nil _
  | cons hr _ ih =>
    refine List.forall_mem_cons.2 ⟨?_, ih⟩
    rw [length_fieldValues hr, columns, List.length_map]

theorem Written.length_row (h : s.Written records rows) :
    ∀ row ∈ rows, row.length = s.columns.length :=
  (lengths_of_mapM_recordValues h.mapM_recordValues).2

theorem exists_mapM_recordValues_iff :
    (∃ rows, records.mapM s.recordValues = .ok rows) ↔ ∀ r ∈ records, Writable r s.fields := by
  simp only [exists_mapM_iff, recordValues, exists_fieldValues_iff]

/-- The first field without a column form: it has this column and none for this cause, the fields
before it in its record have column forms, and so have all fields of the records before. -/
def FirstFault (s : TableSchema R) (records : List R) (column : String)
    (cause : ConversionError) : Prop :=
  ∃ ahead r behind before f rest, records = ahead ++ r :: behind ∧
    (∀ a ∈ ahead, Writable a s.fields) ∧ s.fields = before ++ f :: rest ∧ Writable r before ∧
    f.get r = .error cause ∧ f.column = column

/-- Records are not written just because of their first field without a column form. -/
theorem mapM_recordValues_eq_error_iff {err : Error} :
    records.mapM s.recordValues = .error err ↔
      ∃ column cause, s.FirstFault records column cause ∧ err = .bind column cause := by
  -- the traversal of the records fails at a record, and that of its fields at a field
  rw [mapM_eq_error_iff]
  constructor
  · rintro ⟨ahead, r, behind, hrecords, ha, hr⟩
    rw [recordValues, fieldValues_eq_mapM, mapM_eq_error_iff] at hr
    obtain ⟨before, f, rest, hfields, hb, hf⟩ := hr
    obtain ⟨cause, hget, rfl⟩ := fieldValue_eq_error_iff.1 hf
    refine ⟨f.column, cause, ⟨ahead, r, behind, before, f, rest, hrecords, ?_, hfields, ?_, hget,
      rfl⟩, rfl⟩
    · exact fun a hm => exists_fieldValues_iff.1 (ha a hm)
    · exact fun g hg => (hb g hg).imp fun _ => fieldValue_eq_ok_iff.1
  · rintro ⟨column, cause, ⟨ahead, r, behind, before, f, rest, hrecords, ha, hfields, hb, hget,
      rfl⟩, rfl⟩
    refine ⟨ahead, r, behind, hrecords, fun a hm => exists_fieldValues_iff.2 (ha a hm), ?_⟩
    rw [recordValues, fieldValues_eq_mapM, mapM_eq_error_iff]
    refine ⟨before, f, rest, hfields, ?_, fieldValue_eq_error_iff.2 ⟨cause, hget, rfl⟩⟩
    exact fun g hg => (hb g hg).imp fun _ => fieldValue_eq_ok_iff.2

/-- The values of a record stand in its row in the order of the fields. -/
theorem getElem?_of_mapM_recordValues (h : records.mapM s.recordValues = .ok rows) {i j : Nat}
    {r : R} (hr : records[i]? = some r) {f : FieldDescriptor R} (hf : s.fields[j]? = some f) :
    ∃ row v, rows[i]? = some row ∧ row[j]? = some v ∧ f.get r = .ok v := by
  obtain ⟨row, hrow, hvalues⟩ := getElem?_of_mapM h hr
  rw [recordValues, fieldValues_eq_mapM] at hvalues
  obtain ⟨v, hv, hget⟩ := getElem?_of_mapM hvalues hf
  exact ⟨row, v, hrow, hv, fieldValue_eq_ok_iff.1 hget⟩

end RecordMapper.TableSchema
