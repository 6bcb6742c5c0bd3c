import RecordMapper.Text.Width

/-!
# Tables

Rows of text drawn as a table with rounded corners. A column is as wide as its widest line and has
one space on either side. A rule stands below the first row only; a table of one row ends with it.
-/

namespace RecordMapper.CommandLine.Table

/-- The lines of a cell. -/
def cellLines (s : String) : List (List Char) :=
  s.toList.splitOn '\n'

/-- The characters at the ends, between the columns and along a horizontal line. -/
structure Edge where
  left : Char
  between : Char
  right : Char

def topEdge : Edge := ⟨'╭', '┬', '╮'⟩

def ruleEdge : Edge := ⟨'├', '┼', '┤'⟩

def bottomEdge : Edge := ⟨'╰', '┴', '╯'⟩

/-- Pieces side by side with a character between them and at both ends. -/
def enclose (left between right : Char) (pieces : List (List Char)) : List Char :=
  left :: (List.intercalate [between] pieces ++ [right])

/-- A horizontal line over columns of the given widths. -/
def edgeLine (e : Edge) (widths : List Nat) : List Char :=
  enclose e.left e.between e.right (widths.map fun w => List.replicate (w + 2) '─')

/-- A line of a cell, filled up to the width of its column. -/
def padded (width : Nat) (line : List Char) : List Char :=
  ' ' :: (line ++ List.replicate (width - Text.displayWidth line) ' ' ++ [' '])

/-- The lines of a row; a cell with fewer lines than others is filled up below. -/
def rowLines (widths : List Nat) (cells : List (List (List Char))) : List (List Char) :=
  let height := (cells.map List.length).foldl max 1
  (List.range height).map fun i =>
    enclose '│' '│' '│' ((widths.zip cells).map fun c => padded c.1 (c.2.getD i []))

/-- The widest line of a cell. -/
def cellWidth (lines : List (List Char)) : Nat :=
  (lines.map Text.displayWidth).foldl max 0

/-- The widths of all columns. -/
def columnWidths : List (List (List (List Char))) → List Nat
  | [] => []
  | [row] => row.map cellWidth
  | row :: rows => List.zipWith max (row.map cellWidth) (columnWidths rows)

/-- The table with the given rows, without a newline at the end. -/
def draw (rows : List (List String)) : String :=
  let rows := rows.map (·.map cellLines)
  let widths := columnWidths rows
  let lines :=
    match rows with
    | [] => []
    | first :: rest =>
      [edgeLine topEdge widths] ++ rowLines widths first ++ [edgeLine ruleEdge widths] ++
        rest.flatMap (rowLines widths) ++
        if rest.isEmpty then [] else [edgeLine bottomEdge widths]
  String.ofList (List.intercalate ['\n'] lines)

end RecordMapper.CommandLine.Table
