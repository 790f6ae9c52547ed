/-
Styles of text.

What a piece of a message is shows in its colour and weight, where colours
are wanted.
-/

namespace SchemaDocs.CommandLine

/-- What a piece of text is. -/
inductive Style
  | command | hint | error | heading
  deriving DecidableEq, Repr

/-- What puts a style's texts in its colour and weight. -/
def Style.codes : Style → String
  | command => "\x1b[33m"
  | hint => "\x1b[36m\x1b[1m"
  | error => "\x1b[31m\x1b[1m"
  | heading => "\x1b[1m"

/-- A text in a style, if texts are coloured. -/
def Style.paint (style : Style) (coloured : Bool) (text : String) : String :=
  if coloured then style.codes ++ text ++ "\x1b[0m" else text

end SchemaDocs.CommandLine
