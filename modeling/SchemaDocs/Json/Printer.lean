/-
Writing JSON text.

Values are written without blanks and members in the order they stand in.
In a string the quote, the backslash and the control characters below
U+0020 are escaped, five of them by a letter; everything else stands for
itself.
-/
import SchemaDocs.Json.Basic
import SchemaDocs.Text.Escape

namespace SchemaDocs.Json

/-- A character inside a string. -/
def escape (c : Char) : List Char :=
  if c = '"' then ['\\', '"']
  else if c = '\\' then ['\\', '\\']
  else if c = '\x08' then ['\\', 'b']
  else if c = '\x0c' then ['\\', 'f']
  else if c = '\n' then ['\\', 'n']
  else if c = '\r' then ['\\', 'r']
  else if c = '\t' then ['\\', 't']
  else if c.toNat < 0x20 then 
    ['\\', 'u', '0', '0', Text.hexLower (c.toNat / 16),
      Text.hexLower (c.toNat % 16)]
  else [c]

/-- A text as a JSON string. -/
def quote (text : String) : List Char :=
  '"' :: (text.toList.flatMap escape ++ ['"'])

/-- A whole number in decimal digits. -/
def writeInt (n : Int) : List Char :=
  if n < 0 then '-' :: Nat.toDigits 10 n.natAbs else Nat.toDigits 10 n.natAbs

mutual

/-- The text of a value. -/
def write : Json → List Char
  | null => "null".toList
  | bool true => "true".toList
  | bool false => "false".toList
  | number mantissa exponent =>
      if exponent = 0 then writeInt mantissa
      else writeInt mantissa ++ 'e' :: writeInt exponent
  | string text => quote text
  | array items => '[' :: writeItems items
  | object members => '{' :: writeMembers members

/-- The items of an array with the bracket that closes it. -/
def writeItems : List Json → List Char
  | [] => [']']
  | [item] => write item ++ [']']
  | item :: rest => write item ++ ',' :: writeItems rest

/-- The members of an object with the brace that closes it. -/
def writeMembers : List (String × Json) → List Char
  | [] => ['}']
  | [(key, value)] => quote key ++ ':' :: (write value ++ ['}'])
  | (key, value) :: rest =>
      quote key ++ ':' :: (write value ++ ',' :: writeMembers rest)

end

/-- The text of a value, on one line. -/
def print (json : Json) : String := String.ofList (write json)

end SchemaDocs.Json
