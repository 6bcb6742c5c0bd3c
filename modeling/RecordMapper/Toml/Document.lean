import RecordMapper.Toml.Scalar

/-!
# TOML documents

A document is read line by line: a line is blank, a comment, a header of a table or of an element
of an array of tables, or a key with its value. Strings are basic or literal, on one line or on
several.
-/

namespace RecordMapper.Toml

/-- Reads something from the start of a text. -/
abbrev Reader := StateT (List Char) Option

namespace Reader

/-- The next character, if it passes. -/
def satisfy (p : Char → Bool) : Reader Char := fun cs =>
  match cs with
  | c :: cs => if p c then some (c, cs) else none
  | [] => none

def char (c : Char) : Reader Unit := do
  let _ ← satisfy (· == c)

/-- The longest run of characters that pass. -/
def run (p : Char → Bool) : Reader (List Char) := fun cs =>
  some (cs.takeWhile p, cs.dropWhile p)

/-- The next characters are these, which are then skipped. -/
def skips (expected : List Char) : Reader Bool := fun cs =>
  if expected.isPrefixOf cs then some (true, cs.drop expected.length) else some (false, cs)

def peek : Reader (Option Char) := do
  return (← get).head?

/-- Blanks within a line. -/
def blanks : Reader Unit := do
  let _ ← run fun c => c == ' ' || c == '\t'

/-- A character that may stand in a comment: no control character but the tab. -/
def isCommentChar (c : Char) : Bool :=
  c == '\t' || (decide (0x20 ≤ c.toNat) && c != '\x7f')

/-- An optional comment. -/
def comment : Reader Unit := do
  if ← skips ['#'] then
    let _ ← run isCommentChar

def newline : Reader Unit := do
  if ← skips ['\r', '\n'] then pure () else char '\n'

/-- Blanks, an optional comment, and the end of the line or of the text. -/
def lineEnd : Reader Unit := do
  blanks
  comment
  if (← get).isEmpty then pure () else newline

/-- Blanks, comments and line ends. -/
def gap : (fuel : Nat) → Reader Unit
  | 0 => pure ()
  | fuel + 1 => do
    blanks
    match ← peek with
    | some '#' =>
      comment
      gap fuel
    | some '\n' =>
      newline
      gap fuel
    | some '\r' =>
      newline
      gap fuel
    | _ => pure ()

/-- The character with a code point written in so many hexadecimal digits. -/
def codePoint (digits : Nat) : Reader Char := do
  let cs := (← get).take digits
  if cs.length < digits then failure
  let ds ← cs.mapM fun c => liftM (Text.hexDigit? c)
  set ((← get).drop digits)
  let n := ds.foldl (fun n d => 16 * n + d) 0
  if n.isValidChar then return Char.ofNat n else failure

/-- The character that an escape stands for, after the backslash. -/
def escape : Reader Char := do
  match ← satisfy fun _ => true with
  | 'b' => return '\x08'
  | 't' => return '\t'
  | 'n' => return '\n'
  | 'f' => return '\x0c'
  | 'r' => return '\r'
  | '"' => return '"'
  | '\\' => return '\\'
  | 'u' => codePoint 4
  | 'U' => codePoint 8
  | _ => failure

/-- A character that stands for itself in a string of the given quote: no control character but the
tab, and not the quote. -/
def isPlain (quote c : Char) : Bool :=
  c != quote && isCommentChar c

/-- The rest of a basic string on one line. -/
def basic : (fuel : Nat) → Reader (List Char)
  | 0 => failure
  | fuel + 1 => do
    match ← satisfy fun _ => true with
    | '"' => return []
    | '\\' => do
      let c ← escape
      return c :: (← basic fuel)
    | c => if isPlain '"' c then return c :: (← basic fuel) else failure

/-- The rest of a literal string on one line. -/
def literal : Reader (List Char) := do
  let s ← run (isPlain '\x27')
  char '\x27'
  return s

/-- The quotes that may stand before the three that close a string on several lines. -/
def closing (quote : Char) : Reader (Option (List Char)) := fun cs =>
  let n := (cs.takeWhile (· == quote)).length
  if n < 3 then some (none, cs)
  else
    let kept := min (n - 3) 2
    some (some (List.replicate kept quote), cs.drop (kept + 3))

/-- Blanks and line ends that follow a backslash at the end of a line. -/
def joined : (fuel : Nat) → Reader Unit
  | 0 => pure ()
  | fuel + 1 => do
    blanks
    match ← peek with
    | some '\n' =>
      newline
      joined fuel
    | some '\r' =>
      newline
      joined fuel
    | _ => pure ()

/-- A backslash is followed by the end of the line. -/
def endsLine (cs : List Char) : Bool :=
  match cs.dropWhile fun c => c == ' ' || c == '\t' with
  | '\n' :: _ => true
  | '\r' :: '\n' :: _ => true
  | _ => false

/-- The rest of a string on several lines; `escapes` tells a basic string from a literal one. -/
def multiline (quote : Char) (escapes : Bool) : (fuel : Nat) → Reader (List Char)
  | 0 => failure
  | fuel + 1 => do
    match ← closing quote with
    | some quotes => return quotes
    | none =>
      if ← skips ['\r', '\n'] then return '\n' :: (← multiline quote escapes fuel)
      else
        match ← satisfy fun _ => true with
        | '\n' => return '\n' :: (← multiline quote escapes fuel)
        | c =>
          if escapes && c == '\\' then
            if endsLine (← get) then
              joined fuel
              multiline quote escapes fuel
            else
              let c ← escape
              return c :: (← multiline quote escapes fuel)
          else if c == quote || isPlain quote c then
            return c :: (← multiline quote escapes fuel)
          else failure

/-- A line end right after the quotes that open a string is dropped. -/
def firstLine : Reader Unit := do
  if ← skips ['\r', '\n'] then pure ()
  else
    let _ ← skips ['\n']

/-- A string that may stretch over several lines. -/
def string : Reader String := do
  let fuel := (← get).length
  if ← skips ['"', '"', '"'] then
    firstLine
    return String.ofList (← multiline '"' true fuel)
  else if ← skips ['\x27', '\x27', '\x27'] then
    firstLine
    return String.ofList (← multiline '\x27' false fuel)
  else if ← skips ['"'] then return String.ofList (← basic fuel)
  else
    char '\x27'
    return String.ofList (← literal)

def isBareKeyChar (c : Char) : Bool :=
  c.isAlphanum || c == '_' || c == '-'

/-- One part of a key. -/
def simpleKey : Reader String := do
  let fuel := (← get).length
  if ← skips ['"'] then return String.ofList (← basic fuel)
  else if ← skips ['\x27'] then return String.ofList (← literal)
  else
    match ← run isBareKeyChar with
    | [] => failure
    | cs => return String.ofList cs

/-- How deep arrays and inline tables may nest, and how many parts a key may have. -/
def deepest : Nat := 79

/-- A dotted key of at most `parts` parts, as its path and its last part. -/
def keyUpTo : (parts : Nat) → Reader (List String × String)
  | 0 => failure
  | parts + 1 => do
    let k ← simpleKey
    blanks
    if ← skips ['.'] then
      blanks
      let (path, last) ← keyUpTo parts
      return (k :: path, last)
    else return ([], k)

/-- A dotted key. -/
def key : Reader (List String × String) := keyUpTo deepest

/-- The text of a number, a date or a truth value. A date may be followed by a blank and a time. -/
def scalar : Reader Value := do
  let isPart (c : Char) : Bool :=
    c.isAlphanum || c == '+' || c == '-' || c == '.' || c == '_' || c == ':'
  let cs ← run isPart
  let withTime ← do
    match Scalar.afterDate? cs, ← get with
    | some [], ' ' :: d :: _ => pure d.isDigit
    | _, _ => pure false
  if withTime then
    char ' '
    let time ← run isPart
    liftM (Scalar.date? (cs ++ ' ' :: time))
  else liftM (Scalar.ofText? cs)

mutual

/-- A value in which arrays and inline tables nest at most `depth` deep; `fuel` bounds its size. -/
def value : (depth fuel : Nat) → Reader Value
  | _, 0 => failure
  | depth, fuel + 1 => do
    match ← peek, depth with
    | some '"', _ => return .string (← string)
    | some '\x27', _ => return .string (← string)
    | some '[', 0 => failure
    | some '[', depth + 1 =>
      char '['
      return .array (← items depth fuel)
    | some '\x7b', 0 => failure
    | some '\x7b', depth + 1 =>
      char '\x7b'
      blanks
      if ← skips ['\x7d'] then return .table []
      else return .table (Item.toEntries (← pairs depth fuel []))
    | _, _ => scalar

/-- The items of an array up to its closing bracket, with an optional comma behind the last. -/
def items : (depth fuel : Nat) → Reader (List Value)
  | _, 0 => failure
  | depth, fuel + 1 => do
    gap fuel
    if ← skips [']'] then return []
    let v ← value depth fuel
    gap fuel
    if ← skips [','] then return v :: (← items depth fuel)
    else
      char ']'
      return [v]

/-- The entries of an inline table up to its closing brace. -/
def pairs : (depth fuel : Nat) → Entries → Reader Entries
  | _, 0, _ => failure
  | depth, fuel + 1, es => do
    blanks
    let (path, k) ← key
    char '='
    blanks
    let v ← value depth fuel
    let es ← liftM (es.insertValue path k v)
    blanks
    if ← skips [','] then pairs depth fuel es
    else
      char '\x7d'
      return es

end

/-- The document so far and the path of the table that keys are added to. -/
structure Progress where
  entries : Entries
  current : List String

/-- One line of a document. -/
def line (p : Progress) : Reader Progress := do
  blanks
  match ← peek with
  | none => return p
  | some '#' =>
    lineEnd
    return p
  | some '\n' =>
    newline
    return p
  | some '\r' =>
    newline
    return p
  | some '[' =>
    char '['
    let element ← skips ['[']
    blanks
    let (path, k) ← key
    char ']'
    if element then char ']'
    lineEnd
    let opened := if element then p.entries.openElement path k else p.entries.openTable path k
    return ⟨← liftM opened, path ++ [k]⟩
  | some _ =>
    let (path, k) ← key
    char '='
    blanks
    let v ← value deepest ((← get).length + 1)
    lineEnd
    let add (_ : Form) (es : Entries) : Option Entries := es.insertValue path k v
    return { p with entries := ← liftM (p.entries.modifyAt false add p.current .header) }

/-- All lines of a document; every line consumes some of the text. -/
def lines : (fuel : Nat) → Progress → Reader Progress
  | 0, p => pure p
  | fuel + 1, p => do
    if (← get).isEmpty then return p
    lines fuel (← line p)

end Reader

/-- The table of a document's text, or nothing if the text is no document. -/
def parse? (text : String) : Option (List (String × Value)) := do
  let cs := text.toList
  let cs := if cs.head? = some '\ufeff' then cs.drop 1 else cs
  let (p, _) ← Reader.lines (cs.length + 1) ⟨[], []⟩ cs
  return Item.toEntries p.entries

end RecordMapper.Toml
