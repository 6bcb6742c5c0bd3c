import RecordMapper.Decimal.Reading
import RecordMapper.Store.Command
import RecordMapper.Text.Hexadecimal

/-!
# Tokens

The text of a statement is split into words, quoted names, literals, parameters and symbols. Blanks
and comments separate tokens and are dropped. Parameters are numbered from the left.
-/

namespace RecordMapper.Store

/-- A piece of a statement's text. -/
inductive Token where
  | word (n : Name)
  | name (n : Name)
  | literal (cell : Cell) (source : String)
  | param (index : Nat)
  | symbol (s : String)

namespace Token

/-- The token as it stood in the text, for a message. -/
def text : Token → String
  | word n => n.source
  | name n => n.source
  | literal _ source => source
  | param _ => "?"
  | symbol s => s

def isSpace (c : Char) : Bool :=
  c == ' ' || c == '\t' || c == '\n' || c == '\r' || c == '\x0c'

def isWordStart (c : Char) : Bool :=
  c.isAlpha || c == '_' || decide (0x80 ≤ c.toNat)

def isWordPart (c : Char) : Bool :=
  isWordStart c || c.isDigit || c == '$'

/-- The content of quoted text up to its closing quote, a doubled quote standing for one, and what
follows; nothing if it is not closed. -/
def quoted? (q : Char) : List Char → Option (List Char × List Char)
  | [] => none
  | [c] => if c = q then some ([], []) else none
  | c :: d :: cs =>
    if c = q then
      if d = q then (quoted? q cs).map fun r => (q :: r.1, r.2) else some ([], d :: cs)
    else (quoted? q (d :: cs)).map fun r => (c :: r.1, r.2)

/-- What follows a block comment. -/
def afterComment : List Char → List Char
  | '*' :: '/' :: cs => cs
  | _ :: cs => afterComment cs
  | [] => []

/-- The cell of a number: an integer where it fits, and otherwise a real. -/
def number? (source : List Char) : Option Cell :=
  match (Decimal.readInteger? source).bind (Bounded.ofInt? .i64) with
  | some i => some (.integer i)
  | none => (Decimal.readBinary? .double source).map .real

/-- The length of the number at the start of a text, which starts with a digit or a point. -/
def numberLength (cs : List Char) : Nat :=
  let whole := (cs.takeWhile Char.isDigit).length
  let fraction :=
    match cs.drop whole with
    | '.' :: more => 1 + (more.takeWhile Char.isDigit).length
    | _ => 0
  let mantissa := whole + fraction
  let power (sign : Nat) (more : List Char) : Nat :=
    let ds := (more.takeWhile Char.isDigit).length
    if ds = 0 then 0 else 1 + sign + ds
  let exponent :=
    match cs.drop mantissa with
    | e :: s :: more =>
      if e = 'e' ∨ e = 'E' then
        if s = '+' ∨ s = '-' then power 1 more else power 0 (s :: more)
      else 0
    | _ => 0
  mantissa + exponent

/-- The number of bytes that a text takes. -/
def bytes (cs : List Char) : Nat :=
  cs.foldl (fun n c => n + c.utf8Size) 0

/-- The tokens of the end of a text of `size` bytes, where `next` parameters stand to the left; the
text that cannot be split further is given on failure. -/
def split (size fuel next : Nat) (cs : List Char) : Except String (List Token) :=
  match fuel with
  | 0 => .ok []
  | fuel + 1 =>
    match cs with
    | [] => .ok []
    | c :: rest =>
      let stuck : Except String (List Token) := .error (String.ofList cs)
      let go (t : Token) (cs : List Char) : Except String (List Token) :=
        (split size fuel next cs).map (t :: ·)
      if isSpace c then split size fuel next rest
      else if c = '-' ∧ rest.head? = some '-' then
        split size fuel next (rest.dropWhile (· != '\n'))
      else if c = '/' ∧ rest.head? = some '*' then split size fuel next (afterComment rest.tail)
      else if c = '"' ∨ c = '\x60' then
        match quoted? c rest with
        | some (s, after) => go (.name ⟨String.ofList s, some c, size - bytes cs⟩) after
        | none => stuck
      else if c = '\x27' then
        match quoted? c rest with
        | some (s, cs) =>
          go (.literal (.text (Text.Utf8.encode (String.ofList s))) (String.ofList s)) cs
        | none => stuck
      else if (c = 'x' ∨ c = 'X') ∧ rest.head? = some '\x27' then
        match quoted? '\x27' rest.tail with
        | some (s, cs) =>
          match Text.hexBytes? s with
          | some bytes =>
            go (.literal (.blob ⟨bytes.toArray⟩) (String.ofList (c :: '\x27' :: s ++ ['\x27']))) cs
          | none => stuck
        | none => stuck
      else if c = '?' then (split size fuel (next + 1) rest).map (.param next :: ·)
      else if isWordStart c then
        go (.word ⟨String.ofList (cs.takeWhile isWordPart), none, size - bytes cs⟩)
          (cs.dropWhile isWordPart)
      else if c.isDigit ∨ (c = '.' ∧ (rest.head?.any Char.isDigit)) then
        let source := cs.take (numberLength cs)
        match number? source with
        | some cell => go (.literal cell (String.ofList source)) (cs.drop (numberLength cs))
        | none => stuck
      else
        match c, rest with
        | '<', '=' :: cs => go (.symbol "<=") cs
        | '<', '>' :: cs => go (.symbol "<>") cs
        | '>', '=' :: cs => go (.symbol ">=") cs
        | '!', '=' :: cs => go (.symbol "<>") cs
        | '=', '=' :: cs => go (.symbol "=") cs
        | _, _ => go (.symbol (String.singleton c)) rest

/-- The tokens of a statement's text. -/
def ofText (s : String) : Except StorageFault (List Token) :=
  match split s.utf8ByteSize (s.length + 1) 0 s.toList with
  | .ok ts => .ok ts
  | .error rest => .error (.notUnderstood rest)

/-- The number of parameters among some tokens. -/
def params (ts : List Token) : Nat :=
  (ts.filter fun
    | .param _ => true
    | _ => false).length

end Token

end RecordMapper.Store
