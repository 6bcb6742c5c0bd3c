import RecordMapper.Text.Property.NonSpacing
import RecordMapper.Text.Property.Wide

/-!
# Display width

The number of terminal columns that a line of text takes.
-/

namespace RecordMapper.Text

/-- The columns of one character: two if it is wide, none if it does not show on its own. -/
def charWidth (c : Char) : Nat :=
  if Property.nonSpacing.contains c then 0
  else if Property.wide.contains c then 2
  else 1

/-- The columns of a line. -/
def displayWidth (cs : List Char) : Nat :=
  cs.foldr (fun c n => charWidth c + n) 0

end RecordMapper.Text
