import RecordMapper.CommandLine.Table
import RecordMapper.Value.Text

/-!
# Rows on the screen

The rows of a query as a table, or as a JSON array of arrays that is indented by two spaces.
-/

namespace RecordMapper.CommandLine.Rows

/-- The rows as a table. -/
def table (rows : List (List Value)) : String :=
  if rows.isEmpty then "(no rows)" else Table.draw (rows.map (·.map Value.display))

/-- An array of written items, one on each line, at a depth of indentation. -/
def jsonArray (depth : Nat) (items : List String) : String :=
  let newline (d : Nat) := String.ofList ('\n' :: List.replicate (2 * d) ' ')
  if items.isEmpty then "[]"
  else
    "[" ++ String.intercalate "," (items.map fun item => newline (depth + 1) ++ item) ++
      newline depth ++ "]"

/-- The rows as JSON. -/
def json (rows : List (List Value)) : Except ConversionError String := do
  let written ← rows.mapM fun row => row.mapM Value.json
  return jsonArray 0 (written.map (jsonArray 1))

end RecordMapper.CommandLine.Rows
