import RecordMapper.Binary.Basic
import RecordMapper.Value.Instant

/-!
# Column values

Every parameter of a statement and every column of a row is a `Value`. The kind of a value is what
messages call it by.
-/

namespace RecordMapper

/-- A single column value. -/
inductive Value where
  | null
  | integer (i : Integer64)
  | real (r : Binary64)
  | text (s : String)
  | bool (b : Bool)
  | timestamp (t : Instant)
deriving DecidableEq

namespace Value

/-- The kinds of values. -/
inductive Kind where
  | null
  | integer
  | real
  | text
  | bool
  | timestamp
deriving DecidableEq, Repr

/-- The name of a kind in messages. -/
def Kind.name : Kind → String
  | null => "null"
  | integer => "integer"
  | real => "real"
  | text => "text"
  | bool => "bool"
  | timestamp => "timestamp"

def kind : Value → Kind
  | null => .null
  | integer _ => .integer
  | real _ => .real
  | text _ => .text
  | bool _ => .bool
  | timestamp _ => .timestamp

def isNull : Value → Bool
  | null => true
  | _ => false

/-- Values are equal when they have one kind and one content, reals being compared as numbers:
both zeros are equal, and NaN equals nothing. -/
def equal : Value → Value → Bool
  | real x, real y => x.equal y
  | a, b => decide (a = b)

/-- An integer value, the nearest to the given integer that a column holds. -/
def ofInt (i : Int) : Value :=
  integer (.clamp .i64 i)

end Value

end RecordMapper
