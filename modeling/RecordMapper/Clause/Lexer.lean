import RecordMapper.Clause.Placeholder

/-!
# Regions of a statement

The lexical regions of SQL text: plain text, quoted text, line comments and block comments. Quoted
text ends at a quote that is not doubled, and a doubled quote is a character of the quoted text. A
block comment ends at the first `*/` after its opening. A region that is not closed ends with the
text. `Lexer.marks` counts the question marks of plain text; it is the measure for
`Placeholder.count`.
-/

namespace RecordMapper.Clause.Lexer

/-- The kind of text that a character lies in. -/
inductive Region where
  | plain
  | quoted (quote : Char)
  | line
  | block
deriving DecidableEq, Repr

/-- The number of question marks in the plain regions of a text that starts in the given region. -/
def marks : Region → List Char → Nat
  | _, [] => 0
  | .plain, '-' :: '-' :: cs => marks .line cs
  | .plain, '/' :: '*' :: cs => marks .block cs
  | .plain, '?' :: cs => marks .plain cs + 1
  | .plain, c :: cs => marks (if Placeholder.isQuote c then .quoted c else .plain) cs
  | .quoted _, [_] => 0
  | .quoted q, c :: d :: cs =>
    if c = q then if d = q then marks (.quoted q) cs else marks .plain (d :: cs)
    else marks (.quoted q) (d :: cs)
  | .line, c :: cs => marks (if c = '\n' then .plain else .line) cs
  | .block, '*' :: '/' :: cs => marks .plain cs
  | .block, _ :: cs => marks .block cs

end RecordMapper.Clause.Lexer
