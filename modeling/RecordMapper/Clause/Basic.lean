import RecordMapper.Clause.Fragment
import RecordMapper.Clause.Placeholder
import RecordMapper.Dialect
import RecordMapper.Error
import RecordMapper.Text.Blank

/-!
# Clauses

A clause is one part of a statement. `Clause.render` writes it for a dialect: names are quoted,
values become placeholders with parameters, and a clause that would make a malformed statement is
refused.
-/

namespace RecordMapper

/-- One part of a statement. -/
inductive Clause where
  | insert (table : String) (columns : List String)
  | values (rows : List (List Value))
  | select (table : String) (columns : List String)
  | count (table : String)
  | filter (condition : String) (params : List Value)
  | order (ordering : String)
  | limit (n : Bounded .u64)
  | update (table : String) (assignments : List (String × Value))
  | delete (table : String)
deriving DecidableEq

namespace Clause

def kind : Clause → Kind
  | insert .. => .insert
  | values .. => .values
  | select .. => .select
  | count .. => .count
  | filter .. => .filter
  | order .. => .order
  | limit .. => .limit
  | update .. => .update
  | delete .. => .delete

/-- Texts separated by commas. -/
def commas (ss : List String) : String :=
  String.intercalate ", " ss

/-- A table name as it stands in a statement. -/
def quoteTable (d : Dialect) (table : String) : Except RenderFault String :=
  if table = "" then .error .emptyTable else .ok (d.quoteName table)

/-- A list of column names as it stands in a statement. -/
def quoteColumns (d : Dialect) (columns : List String) : Except RenderFault String :=
  if columns = [] ∨ "" ∈ columns then .error .noColumns
  else .ok (commas (columns.map d.quoteName))

/-- A parenthesised list of `n` placeholders. -/
def tuple (n : Nat) : String :=
  "(" ++ commas (List.replicate n "?") ++ ")"

/-- The fragment of a clause, or why there is none. -/
def fragment (d : Dialect) : Clause → Except RenderFault Fragment
  | insert table columns => do
    let table ← quoteTable d table
    let columns ← quoteColumns d columns
    return ⟨"INSERT INTO " ++ table ++ " (" ++ columns ++ ")", []⟩
  | values rows =>
    let width := (rows.headD []).length
    if width = 0 then .error .noRows
    else if rows.any fun row => row.length != width then .error .raggedRows
    else .ok ⟨"VALUES " ++ commas (List.replicate rows.length (tuple width)), rows.flatten⟩
  | select table columns => do
    let table ← quoteTable d table
    let columns ← quoteColumns d columns
    return ⟨"SELECT " ++ columns ++ " FROM " ++ table, []⟩
  | count table => do
    let table ← quoteTable d table
    return ⟨"SELECT COUNT(*) FROM " ++ table, []⟩
  | filter condition params =>
    let condition := Text.trim condition
    if condition = "" then .error .emptyCondition
    else
      let placeholders := Placeholder.count condition
      if placeholders ≠ params.length then .error (.placeholderCount placeholders params.length)
      else .ok ⟨"WHERE " ++ condition, params⟩
  | order ordering =>
    let ordering := Text.trim ordering
    if ordering = "" then .error .emptyOrdering else .ok ⟨"ORDER BY " ++ ordering, []⟩
  | limit n =>
    match n.cast? .i64 with
    | none => .error .limitOutOfRange
    | some i => .ok ⟨"LIMIT ?", [.integer i]⟩
  | update table assignments => do
    let table ← quoteTable d table
    if assignments = [] then .error .noAssignments
    else if "" ∈ assignments.map (·.1) then .error .emptyColumn
    else
      let sets := assignments.map fun a => d.quoteName a.1 ++ " = ?"
      return ⟨"UPDATE " ++ table ++ " SET " ++ commas sets, assignments.map (·.2)⟩
  | delete table => do
    let table ← quoteTable d table
    return ⟨"DELETE FROM " ++ table, []⟩

/-- Writes a clause for a dialect. -/
def render (d : Dialect) (c : Clause) : Except Error Fragment :=
  match c.fragment d with
  | .ok f => .ok f
  | .error fault => .error (.clause (.render c.kind fault))

end Clause

end RecordMapper
