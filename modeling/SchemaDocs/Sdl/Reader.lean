/-
Reading the parts of definitions.

A part that is damaged is left out, and reading goes on behind it: a field
without a name or a type, a default value that is no value, a list of
members that its brace does not close.
-/
import SchemaDocs.Sdl.Definition
import SchemaDocs.Sdl.Skip

namespace SchemaDocs.Sdl

/-- A reader takes tokens from a cursor. -/
abbrev Reader (α : Type) := StateM Cursor α

-- ============================================================ steps

/-- The tokens at hand. -/
def ahead : Reader (List Token) := return (← get).rest

/-- Passes over the next token. -/
def advance : Reader Unit := modify Cursor.advance

/-- Notes a mistake. -/
def spoil : Reader Unit := modify Cursor.spoil

/-- Passes over a token that should not be there. -/
def drop : Reader Unit := do spoil; advance

/-- Passes over what the goals say. -/
def skipping (goals : List Goal) : Reader Unit := modify (skip goals)

/-- Reads as long as the next token is as `p` says, at most once for each
token of `bound`, and keeps what was read. -/
def manyWithin {α : Type} (p : Token → Bool) (read : Reader (Option α)) :
    List Token → Reader (List α)
  | [] => return []
  | _ :: bound => do
      if headIs p (← ahead) then
        let found ← read
        let more ← manyWithin p read bound
        return found.toList ++ more
      else return []

/-- Reads as long as the next token is as `p` says, and keeps what was
read. Reading takes tokens, so those at hand bound it. -/
def many {α : Type} (p : Token → Bool) (read : Reader (Option α)) :
    Reader (List α) := do
  manyWithin p read (← ahead)

-- ============================================================ parts

/-- A name that should come next. -/
def readName : Reader (Option Name) := do
  match ← ahead with
  | .name name :: _ => advance; return some name
  | _ => spoil; return none

/-- A description, if there is one. -/
def readDescription : Reader (Option String) := do
  match ← ahead with
  | .text value :: _ => advance; return some value
  | _ => return none

/-- A type. -/
def readTypeExpr : Reader (Option TypeExpr) := fun cursor =>
  let (type, next) := readType cursor.rest
  (type, ⟨next.rest, cursor.sound && next.sound⟩)

/-- A default value, if there is one. Answers whether what is written
there is a value. -/
def readDefault : Reader Bool := do
  match ← ahead with
  | .mark .equals :: rest =>
      skipping [.default]
      return headIs opensValue rest
  | _ => return true

/-- The type of a field, behind its colon, with what `after` reads behind
it; no type if `after` refuses. -/
def readFieldType (after : Reader Bool) : Reader (Option TypeExpr) := do
  match ← ahead with
  | .mark .colon :: rest =>
      advance
      if headIs opensType rest then
        let type ← readTypeExpr
        let kept ← after
        return if kept then type else none
      else
        spoil
        return none
  | _ => spoil; return none

/-- A field, if it has a name and a type. -/
def readFieldWith (arguments : Reader Unit) (after : Reader Bool) :
    Reader (Option FieldDef) := do
  let description ← readDescription
  let name ← readName
  arguments
  let type ← readFieldType after
  return do some ⟨← name, description, ← type⟩

/-- A field of an object or interface. -/
def readField : Reader (Option FieldDef) :=
  readFieldWith (skipping [.argumentDefinitions]) do
    skipping [.directives]
    return true

/-- An input field. It has no arguments, and it may have a default value,
without which a sign for one spoils the field. -/
def readInputField : Reader (Option FieldDef) :=
  readFieldWith (return ()) do
    let valued ← readDefault
    skipping [.directives]
    return valued

/-- An enum value. The three literals are no good names for one, but they
are kept. -/
def readValue : Reader (Option ValueDef) := do
  let description ← readDescription
  let name ← readName
  if name.any fun name => ["true", "false", "null"].contains name.text then
    spoil
  skipping [.directives]
  return name.map fun name => ⟨name, description⟩

/-- Members in braces, if there are any; at least one should be. -/
def readBraced {α : Type} (read : Reader (Option α)) : Reader (List α) := do
  match ← ahead with
  | .mark .openBrace :: rest =>
      advance
      if !headIs opensMember rest then spoil
      let members ← many opensMember read
      modify (Cursor.expect · .closeBrace)
      return members
  | _ => return []

/-- The members of a union, if there are any, with bars between them. -/
def readUnion : Reader (List Name) := do
  match ← ahead with
  | .mark .equals :: rest =>
      advance
      if headIs (· = .mark .pipe) rest then advance
      let first ← readName
      let more ← many (· = .mark .pipe) do advance; readName
      return first.toList ++ more
  | _ => return []

/-- The interfaces that a type implements, if it does. Any other name
there is a mistake. -/
def skipInterfaces : Reader Unit := do
  match ← ahead with
  | .name word :: _ =>
      if word.text = "implements" then
        advance
        skipping [.separated .ampersand]
      else spoil
  | _ => return ()

/-- What follows the name of a type. -/
def readMembers (kind : Kind) : Reader Members := do
  if kind = .object ∨ kind = .interface then skipInterfaces
  skipping [.directives]
  match kind with
  | .object => return .object (← readBraced readField)
  | .inputObject => return .inputObject (← readBraced readInputField)
  | .interface => return .interface (← readBraced readField)
  | .union => return .union (← readUnion)
  | .enum => return .enum (← readBraced readValue)
  | .scalar => return .scalar

end SchemaDocs.Sdl
