import RecordMapper.Value.Basic

/-!
# Fragments and statements

A fragment is a rendered clause: its text and the parameters of its placeholders, in order. A
statement is text with parameters, ready for an executor.
-/

namespace RecordMapper

/-- A rendered clause. -/
structure Fragment where
  sql : String
  params : List Value
deriving DecidableEq

/-- A finished statement. -/
structure Statement where
  sql : String
  params : List Value
deriving DecidableEq

/-- The fragments joined by single spaces, with their parameters in the same order. -/
def Statement.ofFragments (fs : List Fragment) : Statement where
  sql := String.intercalate " " (fs.map (·.sql))
  params := fs.flatMap (·.params)

end RecordMapper
