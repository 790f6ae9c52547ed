/-
Definitions of the schema language.

A document defines types and extends them, and it may define directives
and the schema's root operations. Of a type a page shows the description,
the members and their descriptions; everything else that a definition may
hold, such as arguments, default values and directives, is not kept.
-/
import SchemaDocs.Schema.Basic
import SchemaDocs.Sdl.TypeExpr

namespace SchemaDocs.Sdl

-- ============================================================ members

/-- The definition of a field or an input field. -/
structure FieldDef where
  name : Name
  description : Option String
  type : TypeExpr
  deriving DecidableEq, Repr

/-- The definition of an enum value. -/
structure ValueDef where
  name : Name
  description : Option String
  deriving DecidableEq, Repr

/-- The members of a type, by its kind. -/
inductive Members
  | object (fields : List FieldDef)
  | inputObject (fields : List FieldDef)
  | interface (fields : List FieldDef)
  | union (types : List Name)
  | enum (values : List ValueDef)
  | scalar
  deriving DecidableEq, Repr

/-- The kind that members belong to. -/
def Members.kind : Members → Kind
  | .object _ => .object
  | .inputObject _ => .inputObject
  | .interface _ => .interface
  | .union _ => .union
  | .enum _ => .enum
  | .scalar => .scalar

/-- The names of the members. -/
def Members.names : Members → List Name
  | .object fields | .inputObject fields | .interface fields =>
      fields.map FieldDef.name
  | .union types => types
  | .enum values => values.map ValueDef.name
  | .scalar => []

-- ============================================================ items

/-- The definition of a type. -/
structure Definition where
  name : Name
  description : Option String
  members : Members
  deriving DecidableEq, Repr

/-- Members for a type that is defined elsewhere. -/
structure Extension where
  name : Name
  members : Members
  deriving DecidableEq, Repr

/-- The operations that a schema may have a root type for. -/
inductive Operation
  | query | mutation | subscription
  deriving DecidableEq, Repr

/-- The word for an operation. -/
def Operation.word : Operation → String
  | query => "query"
  | mutation => "mutation"
  | subscription => "subscription"

/-- The operation of a word. -/
def Operation.ofWord? (word : String) : Option Operation :=
  [query, mutation, subscription].find? fun operation => operation.word == word

/-- An item of a document. -/
inductive Item
  | type (definition : Definition)
  | extension (extension : Extension)
  /-- A schema definition, with the operations it names a root for. -/
  | schema (roots : List Operation)
  /-- An extension of the schema definition. -/
  | schemaExtension (roots : List Operation)
  | directive (name : Name)
  /-- An operation or a fragment, which belongs to requests. -/
  | executable
  deriving DecidableEq, Repr

-- ============================================================ the model

/-- What a page shows of a field. -/
def FieldDef.describe (field : FieldDef) : Field :=
  ⟨field.name.text, field.description, field.type.layers⟩

/-- What a page shows of an enum value. -/
def ValueDef.describe (value : ValueDef) : EnumValue :=
  ⟨value.name.text, value.description⟩

/-- What a page shows of a type's members. -/
def Members.describe : Members → Body
  | .object fields => .object (fields.map FieldDef.describe)
  | .inputObject fields => .inputObject (fields.map FieldDef.describe)
  | .interface fields => .interface (fields.map FieldDef.describe)
  | .union types => .union (types.map Name.text)
  | .enum values => .enum (values.map ValueDef.describe)
  | .scalar => .scalar

/-- What a page shows of a type. -/
def Definition.describe (definition : Definition) : TypeDef :=
  ⟨definition.name.text, definition.description, definition.members.describe⟩

end SchemaDocs.Sdl
