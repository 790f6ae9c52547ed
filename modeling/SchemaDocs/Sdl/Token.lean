/-
Tokens of the schema language.

A document is made of marks, names, numbers and texts. What a number is
worth is never asked for.
-/
import SchemaDocs.Sdl.Name

namespace SchemaDocs.Sdl

/-- The punctuation marks. -/
inductive Mark
  | bang | dollar | ampersand | openParen | closeParen | spread | colon
  | equals | atSign | openBracket | closeBracket | openBrace | pipe
  | closeBrace
  deriving DecidableEq, Repr

/-- The mark of a single character; the spread is written with three. -/
def Mark.ofChar? : Char → Option Mark
  | '!' => some bang
  | '$' => some dollar
  | '&' => some ampersand
  | '(' => some openParen
  | ')' => some closeParen
  | ':' => some colon
  | '=' => some equals
  | '@' => some atSign
  | '[' => some openBracket
  | ']' => some closeBracket
  | '\x7b' => some openBrace
  | '|' => some pipe
  | '\x7d' => some closeBrace
  | _ => none

/-- A token. -/
inductive Token
  | mark (mark : Mark)
  | name (name : Name)
  | number
  | text (value : String)
  deriving DecidableEq, Repr

end SchemaDocs.Sdl
