import RecordMapper.Store.Cell

/-!
# Commands of the store

The commands that the store understands, as they are read from the text of a statement: names are
not looked up yet, and values are constants or numbered parameters.
-/

namespace RecordMapper.Store

/-- Names are compared without regard to the case of ASCII letters. -/
def sameName (a b : String) : Bool :=
  a.toLower == b.toLower

/-- The name of a table or column as it stands in a statement. -/
structure Name where
  text : String
  /-- The quote on both sides of the name. -/
  quote? : Option Char := none
  /-- The number of bytes before the name. -/
  offset : Nat := 0
deriving DecidableEq, Repr

namespace Name

/-- The name with its quotes, in which a quote is doubled. -/
def source (n : Name) : String :=
  match n.quote? with
  | none => n.text
  | some q =>
    let inner := n.text.toList.flatMap fun c => if c = q then [q, q] else [c]
    String.ofList (q :: (inner ++ [q]))

/-- A name in double quotes stands for itself as a text where there is no such column. -/
def mayBeText (n : Name) : Bool :=
  n.quote? == some '"'

end Name

/-- A value in a command. -/
inductive Operand where
  | param (index : Nat)
  | constant (cell : Cell)

/-- The comparisons of a condition. -/
inductive Comparison where
  | eq
  | ne
  | lt
  | gt
  | le
  | ge
  | same
deriving DecidableEq, Repr

/-- The comparison holds between two cells. With null it never does, except that `same` compares
null with null. -/
def Comparison.holds (o : Comparison) (a b : Cell) : Bool :=
  match o with
  | .same => a.order b == .eq
  | _ =>
    !a.isNull && !b.isNull &&
      match o, a.order b with
      | .eq, .eq | .lt, .lt | .gt, .gt => true
      | .ne, .lt | .ne, .gt => true
      | .le, .lt | .le, .eq => true
      | .ge, .gt | .ge, .eq => true
      | _, _ => false

/-- One term of a condition; all terms must hold. -/
structure Test (χ : Type) where
  column : χ
  comparison : Comparison
  operand : Operand

/-- One key of an ordering. -/
structure SortKey (χ : Type) where
  column : χ
  descending : Bool

/-- A command; `χ` is how columns are named. -/
inductive Command (χ : Type) where
  | create (table : Name) (ifMissing : Bool) (columns : List String) (unique : List χ)
  | insert (table : String) (columns? : Option (List χ)) (rows : List (List Operand))
  | update (table : String) (sets : List (χ × Operand)) (tests : List (Test χ))
  | delete (table : String) (tests : List (Test χ))
  | select (table : String) (outputs : List χ) (tests : List (Test χ)) (keys : List (SortKey χ))
      (limit? : Option Operand)
  | count (table : String) (tests : List (Test χ))
  | values (names : List String) (rows : List (List Operand))

/-- Rows of values that stand in the command. -/
def Command.rows {χ : Type} : Command χ → List (List Operand)
  | .insert _ _ rows => rows
  | .values _ rows => rows
  | _ => []

/-- All rows of values have the same width. -/
def Command.isEven {χ : Type} (c : Command χ) : Bool :=
  c.rows.all fun r => r.length == (c.rows.headD []).length

/-- The command can be prepared without a look at the tables. -/
def Command.isTableless {χ : Type} : Command χ → Bool
  | .values .. => true
  | _ => false

end RecordMapper.Store
