/-!
# Clause kinds

The kinds of clauses that a statement is put together from.
-/

namespace RecordMapper.Clause

/-- The kind of a clause. -/
inductive Kind where
  | insert
  | values
  | select
  | count
  | filter
  | order
  | limit
  | update
  | delete
deriving DecidableEq, Repr

namespace Kind

/-- The keywords that a kind is known by. -/
def name : Kind → String
  | insert => "INSERT"
  | values => "VALUES"
  | select => "SELECT"
  | count => "COUNT"
  | filter => "WHERE"
  | order => "ORDER BY"
  | limit => "LIMIT"
  | update => "UPDATE"
  | delete => "DELETE"

/-- The name of the kind in a diagnostic. -/
def diagnostic : Kind → String
  | insert => "Insert"
  | values => "Values"
  | select => "Select"
  | count => "Count"
  | filter => "Where"
  | order => "OrderBy"
  | limit => "Limit"
  | update => "Update"
  | delete => "Delete"

/-- Every kind, in the order in which they are listed. -/
def all : List Kind :=
  [insert, values, select, count, filter, order, limit, update, delete]

end Kind

end RecordMapper.Clause
