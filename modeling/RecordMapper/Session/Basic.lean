import RecordMapper.Clause.Set

/-!
# Sessions

A session collects the clauses of its next statement. The first clause that does not render is kept
as a pending error and stops the collecting; the operation that consumes the clauses reports it.
Taking the clauses leaves a fresh session behind, whether there is an error or not.
-/

namespace RecordMapper

/-- The clauses collected for the next statement of one user. -/
structure Session where
  dialect : Dialect
  clauses : ClauseSet
  pending : Option Error
  /-- A label for the log entries of the session. -/
  hint? : Option String

namespace Session

/-- A session that has collected nothing. -/
def fresh (d : Dialect) (hint? : Option String) : Session where
  dialect := d
  clauses := .empty d
  pending := none
  hint? := hint?

/-- The label in log entries; empty if there is none. -/
def label (s : Session) : String :=
  s.hint?.getD ""

/-- Drops the collected clauses and any pending error. -/
def reset (s : Session) : Session :=
  fresh s.dialect s.hint?

/-- Collects a clause, unless an earlier one failed to render. -/
def stage (c : Clause) (s : Session) : Session :=
  match s.pending with
  | some _ => s
  | none =>
    match s.clauses.set c with
    | (.ok _, clauses) => { s with clauses := clauses }
    | (.error e, clauses) => { s with clauses := clauses, pending := some e }

/-- Restricts the next statement. -/
def filter (condition : String) (params : List Value) (s : Session) : Session :=
  s.stage (.filter condition params)

/-- Orders the next query. -/
def order (ordering : String) (s : Session) : Session :=
  s.stage (.order ordering)

/-- Limits the rows of the next query. -/
def limit (n : Bounded .u64) (s : Session) : Session :=
  s.stage (.limit n)

/-- The collected clauses, or the pending error. -/
def taken (s : Session) : Except Error ClauseSet :=
  match s.pending with
  | some e => .error e
  | none => .ok s.clauses

/-- The session, for a diagnostic. -/
def diagnostic (s : Session) : String :=
  let hint :=
    match s.hint? with
    | none => "None"
    | some h => "Some(" ++ Text.diagnosticString h ++ ")"
  "Session \x7b dialect: " ++ s.dialect.diagnostic ++ ", clauses: " ++ s.clauses.diagnostic ++
    ", hint: " ++ hint ++ " \x7d"

end Session

end RecordMapper
