import RecordMapper.Clause.Basic
import RecordMapper.Value.Text

/-!
# Clause sets

A clause set keeps at most one fragment of each kind, the last that was set. Building a statement
joins the fragments of the requested kinds in the requested order and changes nothing.
-/

namespace RecordMapper

/-- The fragments collected for one statement, by kind. -/
structure ClauseSet where
  dialect : Dialect
  held : Clause.Kind → Option Fragment

namespace ClauseSet

/-- The empty set. -/
def empty (d : Dialect) : ClauseSet :=
  ⟨d, fun _ => none⟩

/-- The fragment held for a kind. -/
def get? (s : ClauseSet) (k : Clause.Kind) : Option Fragment :=
  s.held k

def contains (s : ClauseSet) (k : Clause.Kind) : Bool :=
  (s.get? k).isSome

/-- The kinds held with their fragments, in the order of the kinds. -/
def toList (s : ClauseSet) : List (Clause.Kind × Fragment) :=
  Clause.Kind.all.filterMap fun k => (s.get? k).map (k, ·)

def isEmpty (s : ClauseSet) : Bool :=
  s.toList.isEmpty

/-- The set with the content of one kind replaced. -/
def put (s : ClauseSet) (k : Clause.Kind) (f : Option Fragment) : ClauseSet :=
  { s with held := fun j => if j = k then f else s.held j }

/-- Renders a clause and keeps its fragment, giving back the one that it replaces. A clause that
does not render leaves the set as it was. -/
def set (s : ClauseSet) (c : Clause) : Except Error (Option Fragment) × ClauseSet :=
  match c.render s.dialect with
  | .error e => (.error e, s)
  | .ok f => (.ok (s.get? c.kind), s.put c.kind (some f))

/-- Drops the fragment of a kind and gives it back. -/
def remove (s : ClauseSet) (k : Clause.Kind) : Option Fragment × ClauseSet :=
  (s.get? k, s.put k none)

/-- Drops every fragment. -/
def clear (s : ClauseSet) : ClauseSet :=
  empty s.dialect

/-- The first kind of a list that stands in it once more further on the left. -/
def repeated? : (seen : List Clause.Kind) → List Clause.Kind → Option Clause.Kind
  | _, [] => none
  | seen, k :: ks => if k ∈ seen then some k else repeated? (k :: seen) ks

/-- The statement made of the fragments of the given kinds. Kinds that were never set contribute
nothing, but one at least must be set and none may be given twice. -/
def build (s : ClauseSet) (ks : List Clause.Kind) : Except Error Statement :=
  match repeated? [] ks with
  | some k => .error (.clause (.repeated k))
  | none =>
    match ks.filterMap s.get? with
    | [] => .error (.clause (.nothingSet ks))
    | f :: fs => .ok (.ofFragments (f :: fs))

@[simp]
theorem get?_empty (d : Dialect) (k : Clause.Kind) : (empty d).get? k = none := rfl

@[simp]
theorem dialect_put (s : ClauseSet) (k : Clause.Kind) (f : Option Fragment) :
    (s.put k f).dialect = s.dialect := rfl

@[simp]
theorem get?_put (s : ClauseSet) (j k : Clause.Kind) (f : Option Fragment) :
    (s.put k f).get? j = if j = k then f else s.get? j := rfl

@[ext]
theorem ext {s t : ClauseSet} (hd : s.dialect = t.dialect) (hg : ∀ k, s.get? k = t.get? k) :
    s = t := by
  cases s; cases t
  cases hd
  congr
  exact funext hg

/-- The set for a diagnostic. -/
def diagnostic (s : ClauseSet) : String :=
  let entry (e : Clause.Kind × Fragment) : String :=
    e.1.diagnostic ++ ": Fragment \x7b sql: " ++ Text.diagnosticString e.2.sql ++ ", params: [" ++
      String.intercalate ", " (e.2.params.map (·.diagnostic)) ++ "] \x7d"
  "ClauseSet \x7b dialect: " ++ s.dialect.diagnostic ++ ", fragments: \x7b" ++
    String.intercalate ", " (s.toList.map entry) ++ "\x7d \x7d"

end ClauseSet

end RecordMapper
