import RecordMapper.Log
import RecordMapper.Schema.Table

/-!
# Registries

A registry keeps the schemas of record types that were used. A type's schema is derived when it is
first asked for, outside any lock, and published unless another schema of the type was published in
the meantime; an entry is never replaced. Schemas of all types stand in one table, so each is kept
with the type that it was derived for. Every derived schema gets a serial number, by which two uses
can tell whether they share one instance.
-/

namespace RecordMapper

/-- Record types with their models, by key. -/
structure Family where
  Key : Type
  [decidableEq : DecidableEq Key]
  Rec : Key → Type
  model : (k : Key) → Model (Rec k)

attribute [instance] Family.decidableEq

/-- The family without record types, for statements that are given as text. -/
def Family.none : Family where
  Key := Empty
  Rec := Empty.elim
  model := nofun

/-- A schema with the number of the derivation that it came from. -/
structure Shared (S : Type) where
  serial : Nat
  schema : S

/-- A derived schema of some type of a family. -/
structure AnySchema (F : Family) where
  key : F.Key
  shared : Shared (TableSchema (F.Rec key))

namespace AnySchema

variable {F : Family}

/-- The schema as one of the given type, if it was derived for that type. -/
def as? (s : AnySchema F) (k : F.Key) : Option (Shared (TableSchema (F.Rec k))) :=
  if h : s.key = k then some (h ▸ s.shared) else none

@[simp]
theorem as?_mk (k : F.Key) (s : Shared (TableSchema (F.Rec k))) :
    (AnySchema.mk k s).as? k = some s := by
  simp [as?]

end AnySchema

/-- The published schemas, oldest first, and the serial number of the next derivation. -/
structure Registry (F : Family) where
  entries : List (F.Key × AnySchema F) := []
  nextSerial : Nat := 0

namespace Registry

variable {F : Family}

/-- The registry without entries. -/
def empty : Registry F := {}

/-- The entry of a type. -/
def entry? (r : Registry F) (k : F.Key) : Option (AnySchema F) :=
  (r.entries.find? fun e => decide (e.1 = k)).map (·.2)

/-- The published schema of a type. -/
def lookup? (r : Registry F) (k : F.Key) : Option (Shared (TableSchema (F.Rec k))) :=
  (r.entry? k).bind (·.as? k)

/-- Some schema of the type has been published. -/
def contains (r : Registry F) (k : F.Key) : Bool :=
  (r.entry? k).isSome

/-- The number of published schemas. -/
def size (r : Registry F) : Nat :=
  r.entries.length

/-- Derives a schema of a type, without publishing it. -/
def derive (r : Registry F) (k : F.Key) :
    Except Error (Shared (TableSchema (F.Rec k))) × Registry F :=
  match TableSchema.derive (F.model k) with
  | .error e => (.error e, r)
  | .ok schema => (.ok ⟨r.nextSerial, schema⟩, { r with nextSerial := r.nextSerial + 1 })

/-- Publishes a schema unless the type has one already, and gives the schema that is published
afterwards. -/
def publish (r : Registry F) (k : F.Key) (s : Shared (TableSchema (F.Rec k))) :
    AnySchema F × Registry F :=
  match r.entry? k with
  | some held => (held, r)
  | none => (⟨k, s⟩, { r with entries := r.entries ++ [(k, ⟨k, s⟩)] })

/-- The published schema as one of the given type. -/
def accept (k : F.Key) (held : AnySchema F) : Except Error (Shared (TableSchema (F.Rec k))) :=
  match held.as? k with
  | some s => .ok s
  | none => .error (.invalidModel (F.model k).typeName .foreignSchema)

/-- What asking for a schema gives: the schema, and whether it was asked for the first time. -/
structure Obtained (R : Type) where
  shared : Shared (TableSchema R)
  registered : Bool

/-- The log entry of a schema that was published. -/
def Obtained.log {R : Type} (o : Obtained R) : List LogEntry :=
  if o.registered then [.registered o.shared.schema.name o.shared.schema.width] else []

/-- The schema of a type, derived and published on first use. -/
def model (r : Registry F) (k : F.Key) : Except Error (Obtained (F.Rec k)) × Registry F :=
  match r.lookup? k with
  | some s => (.ok ⟨s, false⟩, r)
  | none =>
    match r.derive k with
    | (.error e, r) => (.error e, r)
    | (.ok s, r) =>
      let (held, r) := r.publish k s
      ((accept k held).map fun s => ⟨s, true⟩, r)

/-- The registry, for a diagnostic. -/
def diagnostic (r : Registry F) : String :=
  "Registry \x7b tables: " ++ toString r.size ++ " \x7d"

end Registry

end RecordMapper
