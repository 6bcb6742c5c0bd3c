import RecordMapper.Session.Record

/-!
# Runs of a session

The operations of a session as data, and the answers that they give. A run is a list of operations
carried out one after another.
-/

namespace RecordMapper

/-- Something that a user asks a session to do. -/
inductive Operation (F : Family) where
  | filter (condition : String) (params : List Value)
  | order (ordering : String)
  | limit (n : Bounded .u64)
  | reset
  | insert (k : F.Key) (records : List (F.Rec k))
  | find (k : F.Key) (dest : List (F.Rec k))
  | first (k : F.Key)
  | update (k : F.Key) (assignments : List (String × Value))
  | delete (k : F.Key)
  | count (k : F.Key)
  | execRaw (sql : String) (params : List Value)
  | queryRaw (sql : String) (params : List Value)

/-- What an operation gives. -/
inductive Answer (F : Family) where
  /-- A clause was collected or all were dropped. -/
  | staged
  | number (answer : Except Error Int)
  | found (k : F.Key) (outcome : Except Error Unit) (dest : List (F.Rec k))
  | first (k : F.Key) (answer : Except Error (Option (F.Rec k)))
  | rows (answer : Except Error (List (List Value)))

namespace Operation

variable {F : Family} {σ κ : Type}

/-- Carries out one operation. -/
def run [Cursor κ] (o : Operation F) (s : Session) (e : Engine F σ κ) :
    Answer F × Session × Engine F σ κ :=
  let number (a : Attempt (Session × Engine F σ κ) Int) := (Answer.number a.1, a.2)
  match o with
  | filter condition params => (.staged, s.filter condition params, e)
  | order ordering => (.staged, s.order ordering, e)
  | limit n => (.staged, s.limit n, e)
  | reset => (.staged, s.reset, e)
  | insert k records => number (s.insert k records e)
  | find k dest =>
    let ((outcome, rest), dest) := s.find k dest e
    (.found k outcome dest, rest)
  | first k =>
    let (answer, rest) := s.first k e
    (.first k answer, rest)
  | update k assignments => number (s.update k assignments e)
  | delete k => number (s.delete k e)
  | count k => number (s.count k e)
  | execRaw sql params => number (s.execRaw sql params e)
  | queryRaw sql params =>
    let (answer, rest) := s.queryRaw sql params e
    (.rows answer, rest)

/-- Carries out operations in order and gives their answers. -/
def runAll [Cursor κ] : List (Operation F) → Session → Engine F σ κ →
    List (Answer F) × Session × Engine F σ κ
  | [], s, e => ([], s, e)
  | o :: os, s, e =>
    let (a, s, e) := o.run s e
    let (as, s, e) := runAll os s e
    (a :: as, s, e)

end Operation

end RecordMapper
