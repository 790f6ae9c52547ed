/-
Quoted text.

Log lines show names between quotes, with an escape for each character
that would not be told apart otherwise: quotes, backslashes, line breaks,
and whatever is not seen by itself.
-/
import SchemaDocs.Text.Escape
import SchemaDocs.Unicode.Visible

namespace SchemaDocs.Text

/-- A number in hexadecimal digits, in lower case. -/
def hexDigits (n : Nat) : List Char := Nat.toDigits 16 n

/-- A character inside quotes. -/
def escape (c : Char) : List Char :=
  if c = '\x00' then ['\\', '0']
  else if c = '\t' then ['\\', 't']
  else if c = '\r' then ['\\', 'r']
  else if c = '\n' then ['\\', 'n']
  else if c = '"' then ['\\', '"']
  else if c = '\\' then ['\\', '\\']
  else if Unicode.isVisible c then [c]
  else ['\\', 'u', '\x7b'] ++ hexDigits c.toNat ++ ['\x7d']

/-- A text between quotes. -/
def quoted (text : String) : String :=
  "\"" ++ String.ofList (text.toList.flatMap escape) ++ "\""

end SchemaDocs.Text
