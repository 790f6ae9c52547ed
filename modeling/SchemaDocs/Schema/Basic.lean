/-
The types of a schema, as a documentation page sees them.

A type has a name, perhaps a description, and a body that depends on its
kind: fields, input fields, union members, enum values or nothing. A
schema is the list of its types in the order they were given; two types
of one name may stand in it.
-/
import SchemaDocs.Schema.Reference

namespace SchemaDocs

-- ============================================================ kinds

/-- The six kinds of named types. -/
inductive Kind
  | object | inputObject | interface | union | enum | scalar
  deriving DecidableEq, Repr

namespace Kind

/-- Every kind, in the order of an overview. -/
def all : List Kind := [object, inputObject, interface, union, enum, scalar]

/-- The name of a kind in introspection results. -/
def label : Kind → String
  | object => "OBJECT"
  | inputObject => "INPUT_OBJECT"
  | interface => "INTERFACE"
  | union => "UNION"
  | enum => "ENUM"
  | scalar => "SCALAR"

/-- The kind of that name, letter for letter. -/
def ofLabel? (label : String) : Option Kind :=
  all.find? fun kind => kind.label == label

/-- The name of a kind is the name of that kind. -/
theorem ofLabel?_label (kind : Kind) : ofLabel? kind.label = some kind := by
  cases kind <;> rfl

end Kind

-- ============================================================ types

/-- A field of an object or interface, or an input field. -/
structure Field where
  name : String
  description : Option String
  type : Reference
  deriving DecidableEq, Repr

/-- One value of an enum. -/
structure EnumValue where
  name : String
  description : Option String
  deriving DecidableEq, Repr

/-- What a type holds, by its kind. -/
inductive Body
  | object (fields : List Field)
  | inputObject (fields : List Field)
  | interface (fields : List Field)
  | union (members : List String)
  | enum (values : List EnumValue)
  | scalar
  deriving DecidableEq, Repr

/-- A named type. -/
structure TypeDef where
  name : String
  description : Option String
  body : Body
  deriving DecidableEq, Repr

/-- The kind that a body belongs to. -/
def Body.kind : Body → Kind
  | .object _ => .object
  | .inputObject _ => .inputObject
  | .interface _ => .interface
  | .union _ => .union
  | .enum _ => .enum
  | .scalar => .scalar

/-- The fields or input fields; the other kinds have none. -/
def Body.fields : Body → List Field
  | .object fields | .inputObject fields | .interface fields => fields
  | _ => []

namespace TypeDef

/-- The kind of a type. -/
def kind (type : TypeDef) : Kind := type.body.kind

/-- The fields or input fields of a type. -/
def fields (type : TypeDef) : List Field := type.body.fields

/-- Whether a type belongs to introspection itself. -/
def isReserved (type : TypeDef) : Bool :=
  ['_', '_'].isPrefixOf type.name.toList

/-- Whether every schema has the type: the five scalars of the language
and the types of introspection. -/
def isBuiltin (type : TypeDef) : Bool :=
  type.isReserved
    || ["String", "Int", "Float", "Boolean", "ID"].contains type.name

end TypeDef

/-- The types named `name`, in the order of the list. -/
def typesNamed (types : List TypeDef) (name : String) : List TypeDef :=
  types.filter fun type => type.name == name

end SchemaDocs
