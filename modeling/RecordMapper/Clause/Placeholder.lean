/-!
# Placeholders

A placeholder is a `?` outside quoted text and comments. `scan` crosses a text from a given state
and tells the number of placeholders met and the state at the end. Quoted text stands between two
equal quote characters; a doubled quote closes the text and opens it again, which leaves the state
as it was. A line comment runs from two dashes to the end of the line and a block comment from `/*`
to `*/`, where the star that opens the comment does not close it. Whatever is not closed runs to the
end of the text.
-/

namespace RecordMapper.Clause.Placeholder

/-- What surrounds the current character. -/
inductive State where
  | plain
  | quoted (quote : Char)
  | line
  /-- Inside a block comment; `star` tells whether the last character of the comment was a star. -/
  | block (star : Bool)
deriving DecidableEq, Repr

/-- The characters that open and close quoted text. -/
def isQuote (c : Char) : Bool :=
  c == '\x27' || c == '"' || c == '\x60'

/-- The placeholders of a text that starts in the given state, and the state after it. -/
def scan : State → List Char → Nat × State
  | s, [] => (0, s)
  | .plain, '-' :: '-' :: cs => scan .line cs
  | .plain, '/' :: '*' :: cs => scan (.block false) cs
  | .plain, c :: cs =>
    if c = '?' then
      let (n, s) := scan .plain cs
      (n + 1, s)
    else if isQuote c then scan (.quoted c) cs
    else scan .plain cs
  | .quoted q, c :: cs => if c = q then scan .plain cs else scan (.quoted q) cs
  | .line, c :: cs => if c = '\n' then scan .plain cs else scan .line cs
  | .block star, c :: cs => if star && c == '/' then scan .plain cs else scan (.block (c == '*')) cs

/-- The number of placeholders of a text. -/
def count (s : String) : Nat :=
  (scan .plain s.toList).1

end RecordMapper.Clause.Placeholder
