import Mathlib.Data.List.Forall2
import RecordMapper.Executor.Buffered
import RecordMapper.Schema.Table

/-!
# Rows and the records read from them

A row is delivered as a record if it could be scanned, has one value for each field, and every field
takes its value; the record starts from a new one and nothing but the row goes into it. Otherwise
the row has a fault, with the column that is blamed: the one that the cursor names, `*` where the
number of values is wrong, or the first whose field does not take its value.
-/

namespace RecordMapper.TableSchema

variable {R : Type}

/-- The fields of a record are set one after another, each from the value in its place. -/
inductive Sets : List (FieldDescriptor R) → List Value → R → R → Prop
  | done (r : R) : Sets [] [] r r
  | next {f : FieldDescriptor R} {fs : List (FieldDescriptor R)} {v : Value} {vs : List Value}
    {r r₁ r₂ : R} : f.set v r = .ok r₁ → Sets fs vs r₁ r₂ → Sets (f :: fs) (v :: vs) r r₂

/-- The fields are set up to the first that rejects its value: this is its column, and this the
cause. -/
inductive Rejects : List (FieldDescriptor R) → List Value → R → String → ConversionError → Prop
  | here {f : FieldDescriptor R} (fs : List (FieldDescriptor R)) {v : Value} (vs : List Value)
    {r : R} {cause : ConversionError} :
    f.set v r = .error cause → Rejects (f :: fs) (v :: vs) r f.column cause
  | later {f : FieldDescriptor R} {fs : List (FieldDescriptor R)} {v : Value} {vs : List Value}
    {r r₁ : R} {column : String} {cause : ConversionError} :
    f.set v r = .ok r₁ → Rejects fs vs r₁ column cause → Rejects (f :: fs) (v :: vs) r column cause

/-- The row is read into the record. -/
def Delivers (s : TableSchema R) (initial : R) (row : FetchedRow) (r : R) : Prop :=
  ∃ values, row = .ok values ∧ Sets s.fields values initial r

/-- Why a row is not read into a record, and the column that is blamed. -/
inductive RowFault (s : TableSchema R) (initial : R) : FetchedRow → String → ScanFault → Prop
  | unscannable (f : RowFailure) : RowFault s initial (.error f) f.column (.reported f.reason)
  | width {values : List Value} (h : values.length ≠ s.width) :
    RowFault s initial (.ok values) "*" (.width s.width values.length)
  | rejected {values : List Value} {column : String} {cause : ConversionError}
    (hlen : values.length = s.width) (h : Rejects s.fields values initial column cause) :
    RowFault s initial (.ok values) column (.conversion cause)

variable {fs : List (FieldDescriptor R)} {vs : List Value} {r r' : R} {column : String}
  {cause : ConversionError} {fault : ScanFault}

/-! ## Filling a record -/

theorem Sets.length_eq (h : Sets fs vs r r') : vs.length = fs.length := by
  induction h with
  | done r => rfl
  | next _ _ ih => exact congrArg (· + 1) ih

theorem Sets.fill_eq (h : Sets fs vs r r') (row : Nat) : fill row fs vs r = .ok r' := by
  induction h with
  | done r => rfl
  | next hset _ ih =>
    rw [fill, hset]
    exact ih

theorem Rejects.fill_eq (h : Rejects fs vs r column cause) (row : Nat) :
    fill row fs vs r = .error (.scan row column (.conversion cause)) := by
  induction h with
  | here fs vs hset => rw [fill, hset]
  | later hset _ ih =>
    rw [fill, hset]
    exact ih

/-- With a value for each field, either all of them are set or one is the first to be rejected. -/
theorem sets_or_rejects (hlen : vs.length = fs.length) (r : R) :
    (∃ r', Sets fs vs r r') ∨ ∃ column cause, Rejects fs vs r column cause := by
  induction fs generalizing vs r with
  | nil =>
    obtain rfl := List.length_eq_zero_iff.1 hlen
    exact .inl ⟨r, .done r⟩
  | cons f fs ih =>
    obtain ⟨v, vs, rfl⟩ := List.exists_cons_of_length_eq_add_one hlen
    cases hset : f.set v r with
    | error cause => exact .inr ⟨f.column, cause, .here fs vs hset⟩
    | ok r₁ =>
      rcases ih (Nat.succ.inj hlen) r₁ with ⟨r', h⟩ | ⟨column, cause, h⟩
      · exact .inl ⟨r', .next hset h⟩
      · exact .inr ⟨column, cause, .later hset h⟩

/-! ## Reading a row -/

variable {s : TableSchema R} {initial : R}

theorem Delivers.readRow_eq (h : s.Delivers initial (.ok vs) r) (row : Nat) :
    s.readRow initial row vs = .ok r := by
  obtain ⟨_, ⟨⟩, hsets⟩ := h
  rw [readRow, if_neg (fun hne => hne hsets.length_eq)]
  exact hsets.fill_eq row

theorem RowFault.readRow_eq (h : s.RowFault initial (.ok vs) column fault) (row : Nat) :
    s.readRow initial row vs = .error (.scan row column fault) := by
  cases h with
  | width hlen => rw [readRow, if_pos hlen]
  | rejected hlen hrejects =>
    rw [readRow, if_neg (fun hne => hne hlen)]
    exact hrejects.fill_eq row

theorem delivers_or_rowFault (s : TableSchema R) (initial : R) (row : FetchedRow) :
    (∃ r, s.Delivers initial row r) ∨ ∃ column fault, s.RowFault initial row column fault := by
  cases row with
  | error f => exact .inr ⟨_, _, .unscannable f⟩
  | ok values =>
    by_cases hlen : values.length = s.width
    · rcases sets_or_rejects hlen initial with ⟨r, h⟩ | ⟨column, cause, h⟩
      · exact .inl ⟨r, values, rfl, h⟩
      · exact .inr ⟨column, _, .rejected hlen h⟩
    · exact .inr ⟨_, _, .width hlen⟩

/-- Rows without a fault are delivered, each as a record of its own. -/
theorem exists_delivered {rows : List FetchedRow}
    (h : ∀ row ∈ rows, ∀ column fault, ¬ s.RowFault initial row column fault) :
    ∃ records, List.Forall₂ (s.Delivers initial) rows records := by
  induction rows with
  | nil => exact ⟨[], .nil⟩
  | cons row rows ih =>
    obtain ⟨hrow, hrows⟩ := List.forall_mem_cons.1 h
    obtain ⟨records, hrecords⟩ := ih hrows
    rcases delivers_or_rowFault s initial row with ⟨r, hr⟩ | ⟨column, fault, hfault⟩
    · exact ⟨r :: records, .cons hr hrecords⟩
    · exact (hrow column fault hfault).elim

/-- A row that is delivered has no fault. -/
theorem Delivers.not_rowFault {row : FetchedRow} (h : s.Delivers initial row r) (column : String)
    (fault : ScanFault) : ¬ s.RowFault initial row column fault := by
  obtain ⟨values, rfl, hsets⟩ := h
  intro hfault
  have hok : s.readRow initial 0 values = .ok r := Delivers.readRow_eq ⟨values, rfl, hsets⟩ 0
  cases hok.symm.trans (hfault.readRow_eq 0)

end RecordMapper.TableSchema
