/-
Names of the schema language.

A name is a letter or an underscore followed by letters, digits and
underscores, all of them ASCII. The rule is part of the type, so that
whatever a schema names is known to be a name.
-/

namespace SchemaDocs.Sdl

/-- Whether a name may start with the character. -/
def startsName (c : Char) : Bool := c.isAlpha || c = '_'

/-- Whether a name may go on with the character. -/
def continuesName (c : Char) : Bool := startsName c || c.isDigit

/-- Whether the characters are a name. -/
def isName : List Char → Bool
  | [] => false
  | c :: rest => startsName c && rest.all continuesName

/-- A name. -/
structure Name where
  text : String
  valid : isName text.toList = true
  deriving DecidableEq, Repr

namespace Name

/-- Two names of one text are the same name. -/
theorem ext {a b : Name} (h : a.text = b.text) : a = b := by
  cases a; cases b; simp_all

/-- A name is not empty. -/
theorem text_ne_empty (name : Name) : name.text ≠ "" := by
  intro h
  have hvalid := name.valid
  rw [h] at hvalid
  cases hvalid

/-- A name that is given in full. -/
def literal (text : String) (valid : isName text.toList = true := by decide) :
    Name :=
  ⟨text, valid⟩

/-- The name that `first` opens, out of the characters from it on. -/
def ofStart (first : Char) (rest : List Char) (h : startsName first = true) :
    Name where
  text := String.ofList (first :: rest.takeWhile continuesName)
  valid := by simp [isName, h]

end Name

end SchemaDocs.Sdl
