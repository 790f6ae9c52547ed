/-
Reading a document.

A document is a sequence of items, and the first word of an item, behind
its description, says what it is. A token that opens no item is dropped,
and reading goes on with the next.
-/
import SchemaDocs.Sdl.Lexer
import SchemaDocs.Sdl.Reader

namespace SchemaDocs.Sdl

-- ============================================================ types

/-- The word that opens the definition of a type. -/
def keyword : Kind → String
  | .object => "type"
  | .inputObject => "input"
  | .interface => "interface"
  | .union => "union"
  | .enum => "enum"
  | .scalar => "scalar"

/-- The kind of type that a word opens the definition of. -/
def kindOf? (word : String) : Option Kind :=
  Kind.all.find? fun kind => keyword kind == word

/-- The definition of a type, if it has a name. -/
def readDefinition (kind : Kind) : Reader (Option Item) := do
  let description ← readDescription
  advance
  let name ← readName
  let members ← readMembers kind
  return name.map fun name => .type ⟨name, description, members⟩

/-- The extension of a type, if it has a name. -/
def readExtension (kind : Kind) : Reader (Option Item) := do
  advance
  advance
  let name ← readName
  let members ← readMembers kind
  return name.map fun name => .extension ⟨name, members⟩

-- ============================================================ schemas

/-- A root operation with its type. -/
def readRoot : Reader (Option Operation) := do
  let word ← readName
  let operation := word.bind fun word => Operation.ofWord? word.text
  if operation.isNone then spoil
  match ← ahead with
  | .mark .colon :: _ =>
      advance
      let type ← readName
      return type.bind fun _ => operation
  | _ => spoil; return none

/-- The root operations of a schema, if there are any. -/
def readRoots : Reader (Option (List Operation)) := do
  skipping [.directives]
  match ← ahead with
  | .mark .openBrace :: rest =>
      advance
      if !headIs isNameToken rest then spoil
      let roots ← many isNameToken readRoot
      modify (Cursor.expect · .closeBrace)
      return some roots
  | _ => return none

/-- The definition of a schema. It should name its root operations. -/
def readSchema : Reader (Option Item) := do
  let _ ← readDescription
  advance
  match ← readRoots with
  | some roots => return some (.schema roots)
  | none => spoil; return some (.schema [])

/-- The extension of a schema. -/
def readSchemaExtension : Reader (Option Item) := do
  advance
  advance
  return some (.schemaExtension ((← readRoots).getD []))

-- ============================================================ directives

/-- The places that a directive may stand at. -/
def locations : List String :=
  ["QUERY", "MUTATION", "SUBSCRIPTION", "FIELD", "FRAGMENT_DEFINITION",
    "FRAGMENT_SPREAD",
    "INLINE_FRAGMENT", "VARIABLE_DEFINITION", "SCHEMA", "SCALAR", "OBJECT",
    "FIELD_DEFINITION",
    "ARGUMENT_DEFINITION", "INTERFACE", "UNION", "ENUM", "ENUM_VALUE",
    "INPUT_OBJECT",
    "INPUT_FIELD_DEFINITION"]

/-- A place for a directive. -/
def readLocation : Reader (Option Unit) := do
  match ← ahead with
  | .name word :: _ =>
      if locations.contains word.text then advance else spoil
      return some ()
  | _ => spoil; return none

/-- A word, if it comes next. -/
def readWord (word : String) : Reader Bool := do
  match ← ahead with
  | .name name :: _ =>
      if name.text = word then
        advance
        return true
      else return false
  | _ => return false

/-- The definition of a directive, if it has a name. -/
def readDirective : Reader (Option Item) := do
  let _ ← readDescription
  advance
  modify (Cursor.expect · .atSign)
  let name ← readName
  skipping [.argumentDefinitions]
  let _ ← readWord "repeatable"
  if !(← readWord "on") then spoil
  if headIs (· = .mark .pipe) (← ahead) then advance
  let _ ← readLocation
  let _ ← many (· = .mark .pipe) do advance; readLocation
  return name.map .directive

-- ============================================================ requests

/-- An operation. Without its selections it takes the next token with it. -/
def readOperation : Reader (Option Item) := do
  match ← ahead with
  | .mark .openBrace :: _ => skipping [.selectionSet]
  | _ =>
      advance
      if headIs isNameToken (← ahead) then advance
      skipping [.variableDefinitions, .directives]
      if (← get).at? .openBrace then skipping [.selectionSet] else drop
  return some .executable

/-- A fragment. -/
def readFragment : Reader (Option Item) := do
  advance
  match ← ahead with
  | .name word :: _ => if word.text ≠ "on" then advance
  | _ => return some .executable
  if !(← readWord "on") then spoil
  skipping [.name, .directives, .selectionSet]
  return some .executable

-- ============================================================ items

/-- An extension of a type or of the schema. The word alone is dropped
where nothing follows that can be extended. -/
def readExtend (next : List Token) : Reader (Option Item) := do
  match next with
  | .name word :: _ =>
      if word.text = "schema" then readSchemaExtension
      else
        match kindOf? word.text with
        | some kind => readExtension kind
        | none => drop; return none
  | _ => drop; return none

/-- The item that `word` opens, perhaps behind a description. -/
def readItemOf (word : String) (described : Bool) (next : List Token) :
    Reader (Option Item) := do
  if let some kind := kindOf? word then readDefinition kind
  else if word = "schema" then readSchema
  else if word = "directive" then readDirective
  else if word = "fragment" then readFragment
  else if word = "extend" ∧ !described then readExtend next
  else if (Operation.ofWord? word).isSome ∧ !described then readOperation
  else
    drop
    return none

/-- An item, or a token that opens none. -/
def readItem : Reader (Option Item) := do
  match ← ahead with
  | .text _ :: .name word :: next => readItemOf word.text true next
  | .name word :: next => readItemOf word.text false next
  | .mark .openBrace :: _ => readOperation
  | _ => drop; return none

/-- The items of a document, and whether all of it was in order. A
document without any token is not. -/
def readDocument (text : String) : List Item × Bool :=
  let (tokens, sound) := Sdl.tokens text.toList
  let (items, last) :=
    many (fun _ => true) readItem ⟨tokens, sound && !tokens.isEmpty⟩
  (items, last.sound)

end SchemaDocs.Sdl
