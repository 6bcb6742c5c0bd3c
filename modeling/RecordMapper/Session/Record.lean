import RecordMapper.Session.Basic
import RecordMapper.Session.Engine

/-!
# Record operations

Inserting, finding, updating, deleting and counting records, and running statements given as text.
Every operation first takes the collected clauses, then puts one statement together and hands it to
the executor at most once. The session left behind is fresh in every case.
-/

namespace RecordMapper.Session

variable {F : Family} {σ κ : Type}

/-- The kinds of clauses in the statements that operations issue, in the order of the text. -/
def insertShape : List Clause.Kind := [.insert, .values]

def selectShape : List Clause.Kind := [.select, .filter, .order, .limit]

def updateShape : List Clause.Kind := [.update, .filter]

def deleteShape : List Clause.Kind := [.delete, .filter]

def countShape : List Clause.Kind := [.count, .filter]

/-- Adds a clause to the clauses taken and builds a statement of the given shape. -/
def assemble (clauses : ClauseSet) (c : Clause) (shape : List Clause.Kind) :
    Except Error Statement :=
  match clauses.set c with
  | (.error err, _) => .error err
  | (.ok _, clauses) => clauses.build shape

/-- Starts from the collected clauses, or fails with the pending error. -/
def withTaken {α : Type} (s : Session) (e : Engine F σ κ)
    (run : ClauseSet → Engine F σ κ → Attempt (Engine F σ κ) α) : Attempt (Engine F σ κ) α :=
  Attempt.andThen (s.taken, e) run

/-- The rows of values of some records, with the INSERT clause added to the clauses. The schema is
asked for with every record. -/
def insertRows (k : F.Key) : List (F.Rec k) → ClauseSet → Engine F σ κ →
    Attempt (Engine F σ κ) (ClauseSet × List (List Value))
  | [], clauses, e => (.ok (clauses, []), e)
  | record :: records, clauses, e =>
    (e.schema k).andThen fun schema e =>
      match clauses.set (.insert schema.name schema.columns) with
      | (.error err, _) => (.error err, e)
      | (.ok _, clauses) =>
        match schema.recordValues record with
        | .error err => (.error err, e)
        | .ok values =>
          (insertRows k records clauses e).andThen fun r e => (.ok (r.1, values :: r.2), e)

/-- Inserts a batch of records with a single statement and gives the number of affected rows.
Parameters follow the records, and within a record its fields. -/
def insert (k : F.Key) (records : List (F.Rec k)) (s : Session) (e : Engine F σ κ) :
    Attempt (Session × Engine F σ κ) Int :=
  let (answer, e) := s.withTaken e fun clauses e =>
    (insertRows k records clauses e).andThen fun r e =>
      Attempt.andThen (assemble r.1 (.values r.2) insertShape, e) fun st e =>
        e.exec s.label st.sql st.params
  (answer, s.reset, e)

/-- Appends every matching row to `dest`, in row order. If a row cannot be read, the rows before it
stay in `dest`. -/
def find [Cursor κ] (k : F.Key) (dest : List (F.Rec k)) (s : Session) (e : Engine F σ κ) :
    Attempt (Session × Engine F σ κ) Unit × List (F.Rec k) :=
  let prepared := s.withTaken e fun clauses e =>
    (e.schema k).andThen fun schema e =>
      ((assemble clauses (.select schema.name schema.columns) selectShape).map (schema, ·), e)
  match prepared with
  | (.error err, e) => ((.error err, s.reset, e), dest)
  | (.ok (schema, st), e) =>
    let take (row : Nat) (values : List Value) (records : List (F.Rec k)) :=
      (schema.readRow (F.model k).initial row values).map fun r => records ++ [r]
    let ((outcome, e), dest) := e.fold s.label st.sql st.params take dest
    ((outcome, s.reset, e), dest)

/-- The first matching record, if there is one. -/
def first [Cursor κ] (k : F.Key) (s : Session) (e : Engine F σ κ) :
    Attempt (Session × Engine F σ κ) (Option (F.Rec k)) :=
  let ((outcome, rest), found) := (s.limit ⟨1, by decide, by decide⟩).find k [] e
  (outcome.map fun _ => found.head?, rest)

/-- The assignments with fields resolved to columns. -/
def resolve {R : Type} (schema : TableSchema R) :
    List (String × Value) → Except Error (List (String × Value))
  | [] => .ok []
  | (name, value) :: rest =>
    match schema.field? name with
    | none => .error (.clause (.unknownField schema.name name))
    | some f => (resolve schema rest).map ((f.column, value) :: ·)

/-- Updates the matching rows; assignments are keyed by field name or column name. -/
def update (k : F.Key) (assignments : List (String × Value)) (s : Session) (e : Engine F σ κ) :
    Attempt (Session × Engine F σ κ) Int :=
  let (answer, e) := s.withTaken e fun clauses e =>
    (e.schema k).andThen fun schema e =>
      Attempt.andThen (resolve schema assignments, e) fun resolved e =>
        Attempt.andThen (assemble clauses (.update schema.name resolved) updateShape, e)
          fun st e => e.exec s.label st.sql st.params
  (answer, s.reset, e)

/-- Deletes the matching rows. -/
def delete (k : F.Key) (s : Session) (e : Engine F σ κ) : Attempt (Session × Engine F σ κ) Int :=
  let (answer, e) := s.withTaken e fun clauses e =>
    (e.schema k).andThen fun schema e =>
      Attempt.andThen (assemble clauses (.delete schema.name) deleteShape, e)
        fun st e => e.exec s.label st.sql st.params
  (answer, s.reset, e)

/-- Runs a query and collects every row. -/
def collect [Cursor κ] (hint sql : String) (params : List Value) (e : Engine F σ κ) :
    Attempt (Engine F σ κ) (List (List Value)) :=
  let take (_ : Nat) (values : List Value) (rows : List (List Value)) : Except Error _ :=
    .ok (rows ++ [values])
  let ((outcome, e), rows) := e.fold hint sql params take []
  (outcome.map fun _ => rows, e)

/-- The count in the first cell of the first row. -/
def countOfRows (rows : List (List Value)) : Except Error Int :=
  let fail (fault : ScanFault) := Except.error (.scan 1 "COUNT(*)" fault)
  match rows.head?.bind (·.head?) with
  | none => fail .noRows
  | some v =>
    match ScalarType.fromValue (.integer .i64) v with
    | .error cause => fail (.conversion cause)
    | .ok n => .ok n.val

/-- Counts the matching rows. -/
def count [Cursor κ] (k : F.Key) (s : Session) (e : Engine F σ κ) :
    Attempt (Session × Engine F σ κ) Int :=
  let (answer, e) := s.withTaken e fun clauses e =>
    (e.schema k).andThen fun schema e =>
      Attempt.andThen (assemble clauses (.count schema.name) countShape, e) fun st e =>
        (collect s.label st.sql st.params e).andThen fun rows e => (countOfRows rows, e)
  (answer, s.reset, e)

/-- Runs a statement given as text. -/
def execRaw (sql : String) (params : List Value) (s : Session) (e : Engine F σ κ) :
    Attempt (Session × Engine F σ κ) Int :=
  let (answer, e) := e.exec s.label sql params
  (answer, s.reset, e)

/-- Runs a query given as text and gives its rows. -/
def queryRaw [Cursor κ] (sql : String) (params : List Value) (s : Session) (e : Engine F σ κ) :
    Attempt (Session × Engine F σ κ) (List (List Value)) :=
  let (answer, e) := collect s.label sql params e
  (answer, s.reset, e)

end RecordMapper.Session
