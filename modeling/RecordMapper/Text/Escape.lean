import RecordMapper.Text.Hexadecimal
import RecordMapper.Text.Property.Extending
import RecordMapper.Text.Property.Unprintable

/-!
# Escaped text

Two ways of writing text between double quotes: `jsonString` escapes what JSON requires and nothing
else, `diagnosticString` escapes also every character that would not show.
-/

namespace RecordMapper.Text

/-- A character inside a JSON string. -/
def jsonChar (c : Char) : List Char :=
  if c = '"' then ['\\', '"']
  else if c = '\\' then ['\\', '\\']
  else if c = '\x08' then ['\\', 'b']
  else if c = '\x0c' then ['\\', 'f']
  else if c = '\n' then ['\\', 'n']
  else if c = '\r' then ['\\', 'r']
  else if c = '\t' then ['\\', 't']
  else if c.toNat < 0x20 then ['\\', 'u'] ++ hex 4 c.toNat
  else [c]

/-- A JSON string. -/
def jsonString (s : String) : String :=
  String.ofList ('"' :: (s.toList.flatMap jsonChar ++ ['"']))

/-- A character inside a diagnostic string. -/
def diagnosticChar (c : Char) : List Char :=
  if c = '"' then ['\\', '"']
  else if c = '\\' then ['\\', '\\']
  else if c = '\n' then ['\\', 'n']
  else if c = '\r' then ['\\', 'r']
  else if c = '\t' then ['\\', 't']
  else if c.toNat = 0 then ['\\', '0']
  else if Property.extending.contains c || Property.unprintable.contains c then
    ['\\', 'u', '\x7b'] ++ hex 1 c.toNat ++ ['\x7d']
  else [c]

/-- Text for a diagnostic: between double quotes, with everything that would not show escaped. -/
def diagnosticString (s : String) : String :=
  String.ofList ('"' :: (s.toList.flatMap diagnosticChar ++ ['"']))

end RecordMapper.Text
