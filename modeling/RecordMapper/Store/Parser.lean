import RecordMapper.Store.Token

/-!
# Reading commands

A command is read from the tokens of a statement. Keywords are words in any case; a word or a quoted
name stands for a table or column, also a word that is a keyword elsewhere.
-/

namespace RecordMapper.Store

/-- Reads something from the start of a list of tokens. -/
abbrev Reader := StateT (List Token) Option

namespace Reader

/-- The next token, if `f` accepts it. -/
def accept {α : Type} (f : Token → Option α) : Reader α := fun ts =>
  match ts with
  | [] => none
  | t :: ts => (f t).map (·, ts)

def keyword (k : String) : Reader Unit :=
  accept fun
    | .word n => if sameName n.text k then some () else none
    | _ => none

def keywords : List String → Reader Unit
  | [] => pure ()
  | k :: ks => do
    keyword k
    keywords ks

def symbol (c : String) : Reader Unit :=
  accept fun
    | .symbol s => if s = c then some () else none
    | _ => none

/-- The name of a column. -/
def name : Reader Name :=
  accept fun
    | .word n => some n
    | .name n => some n
    | _ => none

/-- The name of a table that should exist. -/
def table : Reader String := do
  return (← name).text

/-- What `r` reads, or `none` where it reads nothing. -/
def optional {α : Type} (r : Reader α) : Reader (Option α) := fun ts =>
  match r ts with
  | some (x, ts) => some (some x, ts)
  | none => some (none, ts)

/-- What `r` reads as often as `separator` follows, but at most `fuel` times more. -/
def more {α : Type} (separator : Reader Unit) (r : Reader α) : (fuel : Nat) → Reader (List α)
  | 0 => pure []
  | fuel + 1 => do
    match ← optional separator with
    | none => pure []
    | some () =>
      let x ← r
      let xs ← more separator r fuel
      return x :: xs

/-- One or more of what `r` reads, separated by `separator`. -/
def separated {α : Type} (separator : Reader Unit) (r : Reader α) : Reader (List α) := do
  let fuel := (← get).length
  let x ← r
  let xs ← more separator r fuel
  return x :: xs

def commas {α : Type} (r : Reader α) : Reader (List α) :=
  separated (symbol ",") r

def parenthesised {α : Type} (r : Reader α) : Reader α := do
  symbol "("
  let x ← r
  symbol ")"
  return x

/-- The cell of a literal with its sign turned. -/
def negate : Cell → Option Cell
  | .integer i => (Bounded.ofInt? .i64 (-i.val)).map .integer
  | .real r => some (.real (Binary.ofNat .double (r.bits + BinaryFormat.double.signBit)))
  | _ => none

/-- A parameter or a constant. -/
def operand : Reader Operand := do
  match ← optional (symbol "-") with
  | some () =>
    accept fun
      | .literal c _ => (negate c).map .constant
      | _ => none
  | none =>
    accept fun
      | .param i => some (.param i)
      | .literal c _ => some (.constant c)
      | .word n => if sameName n.text "NULL" then some (.constant .null) else none
      | _ => none

def row : Reader (List Operand) :=
  parenthesised (commas operand)

def comparison : Reader Comparison :=
  accept fun
    | .symbol "=" => some .eq
    | .symbol "<>" => some .ne
    | .symbol "<" => some .lt
    | .symbol ">" => some .gt
    | .symbol "<=" => some .le
    | .symbol ">=" => some .ge
    | .word n => if sameName n.text "IS" then some .same else none
    | _ => none

def test : Reader (Test Name) := do
  let column ← name
  let comparison ← comparison
  let operand ← operand
  return ⟨column, comparison, operand⟩

/-- An optional condition. -/
def condition : Reader (List (Test Name)) := do
  match ← optional (keyword "WHERE") with
  | none => return []
  | some () => separated (keyword "AND") test

def sortKey : Reader (SortKey Name) := do
  let column ← name
  match ← optional (keyword "DESC") with
  | some () => return ⟨column, true⟩
  | none =>
    let _ ← optional (keyword "ASC")
    return ⟨column, false⟩

/-- An optional ordering. -/
def ordering : Reader (List (SortKey Name)) := do
  match ← optional (keywords ["ORDER", "BY"]) with
  | none => return []
  | some () => commas sortKey

/-- A column of a new table, or the column of a uniqueness rule. -/
def tableItem : Reader (String ⊕ Name) :=
  (do keyword "UNIQUE"; return .inr (← parenthesised name)) <|> (do return .inl (← name).text)

def create : Reader (Command Name) := do
  keywords ["CREATE", "TABLE"]
  let ifMissing ← optional (keywords ["IF", "NOT", "EXISTS"])
  let table ← name
  let items ← parenthesised (commas tableItem)
  let columns := items.filterMap (·.getLeft?)
  let unique := items.filterMap (·.getRight?)
  return .create table ifMissing.isSome columns unique

def insert : Reader (Command Name) := do
  keywords ["INSERT", "INTO"]
  let table ← table
  let columns ← optional (parenthesised (commas name))
  keyword "VALUES"
  return .insert table columns (← commas row)

def update : Reader (Command Name) := do
  keyword "UPDATE"
  let table ← table
  keyword "SET"
  let sets ← commas do
    let column ← name
    symbol "="
    return (column, ← operand)
  return .update table sets (← condition)

def delete : Reader (Command Name) := do
  keywords ["DELETE", "FROM"]
  let table ← table
  return .delete table (← condition)

def count : Reader (Command Name) := do
  keywords ["SELECT", "COUNT"]
  symbol "("
  symbol "*"
  symbol ")"
  keyword "FROM"
  let table ← table
  return .count table (← condition)

def select : Reader (Command Name) := do
  keyword "SELECT"
  let outputs ← commas name
  keyword "FROM"
  let table ← table
  let tests ← condition
  let keys ← ordering
  let limit? ← optional do
    keyword "LIMIT"
    operand
  return .select table outputs tests keys limit?

/-- A computed column with its name, which without AS is the text it was read from. -/
def computed : Reader (String × Operand) := do
  let source := (← get).head?.map (·.text)
  let x ← operand
  match ← optional (keyword "AS") with
  | some () => return ((← name).text, x)
  | none => return (source.getD "", x)

def selectValues : Reader (Command Name) := do
  keyword "SELECT"
  let cells ← commas computed
  return .values (cells.map (·.1)) [cells.map (·.2)]

def values : Reader (Command Name) := do
  keyword "VALUES"
  let rows ← commas row
  let width := (rows.headD []).length
  return .values ((List.range width).map fun i => "column" ++ toString (i + 1)) rows

/-- Any command, with an optional semicolon behind it. -/
def command : Reader (Command Name) := do
  let c ← create <|> insert <|> update <|> delete <|> count <|> select <|> selectValues <|> values
  let _ ← optional (symbol ";")
  return c

end Reader

/-- A command with the number of parameters in its text. -/
structure Parsed where
  command : Command Name
  params : Nat

/-- The command of a statement's text. -/
def parse (sql : String) : Except StorageFault Parsed :=
  match Token.ofText sql with
  | .error fault => .error fault
  | .ok ts =>
    match Reader.command ts with
    | some (c, []) =>
      if c.isEven then .ok ⟨c, Token.params ts⟩ else .error .unevenRows
    | some (_, t :: _) => .error (.notUnderstood t.text)
    | none => .error (.notUnderstood ((ts.head?.map (·.text)).getD ""))

end RecordMapper.Store
