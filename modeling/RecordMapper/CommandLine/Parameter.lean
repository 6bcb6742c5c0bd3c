import RecordMapper.Decimal.Reading
import RecordMapper.Value.Basic

/-!
# Parameters on the command line

A word given for a placeholder is an integer, a real, a truth value, null or text. The first of
these forms that it has decides; whatever has none of the others is text as it stands.
-/

namespace RecordMapper.CommandLine

/-- The words for truth values and null. -/
def keyword? (raw : String) : Option Value :=
  if raw = "true" then some (.bool true)
  else if raw = "false" then some (.bool false)
  else if raw = "null" ∨ raw = "NULL" then some .null
  else none

/-- The integer that a word denotes, if it fits. -/
def integer? (raw : String) : Option Integer64 :=
  (Decimal.readInteger? raw.toList).bind (Bounded.ofInt? .i64)

/-- The real that a word denotes. -/
def real? (raw : String) : Option Binary64 :=
  Decimal.readBinary? .double raw.toList

/-- The value that a word stands for. -/
def parameter (raw : String) : Value :=
  match integer? raw, real? raw, keyword? raw with
  | some i, _, _ => .integer i
  | none, some r, _ => .real r
  | none, none, some v => v
  | none, none, none => .text raw

end RecordMapper.CommandLine
