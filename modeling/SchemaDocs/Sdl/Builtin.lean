/-
The types that every schema has.

The list of a schema's types starts with those of introspection and the
five scalars of the language, whatever the document says.
-/
import SchemaDocs.Sdl.Definition

namespace SchemaDocs.Sdl.Builtin

-- ============================================================ the types

/-- The schema itself. -/
def schema : Definition where
  name := .literal "__Schema"
  description := some
    ("A GraphQL Schema defines the capabilities of a GraphQL server. It "
      ++ "exposes all available types and directives on the server, as well "
      ++ "as the entry points for query, mutation, and subscription "
      ++ "operations.")
  members := .object [
    ⟨.literal "description", none, .named (.literal "String")⟩,
    ⟨.literal "types", some
      "A list of all types supported by this server.",
      .nonNullList (.nonNullNamed (.literal "__Type"))⟩,
    ⟨.literal "queryType", some
      "The type that query operations will be rooted at.",
      .nonNullNamed (.literal "__Type")⟩,
    ⟨.literal "mutationType", some
      ("If this server supports mutation, the type that mutation operations "
        ++ "will be rooted at."),
      .named (.literal "__Type")⟩,
    ⟨.literal "subscriptionType", some
      ("If this server support subscription, the type that subscription "
        ++ "operations will be rooted at."),
      .named (.literal "__Type")⟩,
    ⟨.literal "directives", some
      "A list of all directives supported by this server.",
      .nonNullList (.nonNullNamed (.literal "__Directive"))⟩]

/-- A type, or a layer around one. -/
def type : Definition where
  name := .literal "__Type"
  description := some
    ("The fundamental unit of any GraphQL Schema is the type. There are "
      ++ "many kinds of types in GraphQL as represented by the `__TypeKind` "
      ++ "enum.\n\nDepending on the kind of a type, certain fields describe "
      ++ "information about that type. Scalar types provide no information "
      ++ "beyond a name, description and optional `specifiedByURL`, while "
      ++ "Enum types provide their values. Object and Interface types "
      ++ "provide the fields they describe. Abstract types, Union and "
      ++ "Interface, provide the Object types possible at runtime. List and "
      ++ "NonNull types compose other types.")
  members := .object [
    ⟨.literal "kind", none, .nonNullNamed (.literal "__TypeKind")⟩,
    ⟨.literal "name", none, .named (.literal "String")⟩,
    ⟨.literal "description", none, .named (.literal "String")⟩,
    ⟨.literal "fields", none, .list (.nonNullNamed (.literal "__Field"))⟩,
    ⟨.literal "interfaces", none, .list (.nonNullNamed (.literal "__Type"))⟩,
    ⟨.literal "possibleTypes", none,
      .list (.nonNullNamed (.literal "__Type"))⟩,
    ⟨.literal "enumValues", none,
      .list (.nonNullNamed (.literal "__EnumValue"))⟩,
    ⟨.literal "inputFields", none,
      .list (.nonNullNamed (.literal "__InputValue"))⟩,
    ⟨.literal "ofType", none, .named (.literal "__Type")⟩,
    ⟨.literal "specifiedByURL", none, .named (.literal "String")⟩]

/-- The kinds of types and of layers. -/
def typeKind : Definition where
  name := .literal "__TypeKind"
  description := some
    "An enum describing what kind of type a given `__Type` is."
  members := .enum [
    ⟨.literal "SCALAR", some "Indicates this type is a scalar."⟩,
    ⟨.literal "OBJECT", some
      ("Indicates this type is an object. `fields` and `interfaces` are "
        ++ "valid fields.")⟩,
    ⟨.literal "INTERFACE", some
      ("Indicates this type is an interface. `fields`, `interfaces`, and "
        ++ "`possibleTypes` are valid fields.")⟩,
    ⟨.literal "UNION", some
      "Indicates this type is a union. `possibleTypes` is a valid field."⟩,
    ⟨.literal "ENUM", some
      "Indicates this type is an enum. `enumValues` is a valid field."⟩,
    ⟨.literal "INPUT_OBJECT", some
      ("Indicates this type is an input object. `inputFields` is a valid "
        ++ "field.")⟩,
    ⟨.literal "LIST", some
      "Indicates this type is a list. `ofType` is a valid field."⟩,
    ⟨.literal "NON_NULL", some
      "Indicates this type is a non-null. `ofType` is a valid field."⟩]

/-- A field of an object or interface. -/
def field : Definition where
  name := .literal "__Field"
  description := some
    ("Object and Interface types are described by a list of Fields, each of "
      ++ "which has a name, potentially a list of arguments, and a return "
      ++ "type.")
  members := .object [
    ⟨.literal "name", none, .nonNullNamed (.literal "String")⟩,
    ⟨.literal "description", none, .named (.literal "String")⟩,
    ⟨.literal "args", none,
      .nonNullList (.nonNullNamed (.literal "__InputValue"))⟩,
    ⟨.literal "type", none, .nonNullNamed (.literal "__Type")⟩,
    ⟨.literal "isDeprecated", none, .nonNullNamed (.literal "Boolean")⟩,
    ⟨.literal "deprecationReason", none, .named (.literal "String")⟩]

/-- An argument or an input field. -/
def inputValue : Definition where
  name := .literal "__InputValue"
  description := some
    ("Arguments provided to Fields or Directives and the input fields of an "
      ++ "InputObject are represented as Input Values which describe their "
      ++ "type and optionally a default value.")
  members := .object [
    ⟨.literal "name", none, .nonNullNamed (.literal "String")⟩,
    ⟨.literal "description", none, .named (.literal "String")⟩,
    ⟨.literal "type", none, .nonNullNamed (.literal "__Type")⟩,
    ⟨.literal "defaultValue", some
      ("A GraphQL-formatted string representing the default value for this "
        ++ "input value."),
      .named (.literal "String")⟩,
    ⟨.literal "isDeprecated", none, .nonNullNamed (.literal "Boolean")⟩,
    ⟨.literal "deprecationReason", none, .named (.literal "String")⟩]

/-- A value of an enum. -/
def enumValue : Definition where
  name := .literal "__EnumValue"
  description := some
    ("One possible value for a given Enum. Enum values are unique values, "
      ++ "not a placeholder for a string or numeric value. However an Enum "
      ++ "value is returned in a JSON response as a string.")
  members := .object [
    ⟨.literal "name", none, .nonNullNamed (.literal "String")⟩,
    ⟨.literal "description", none, .named (.literal "String")⟩,
    ⟨.literal "isDeprecated", none, .nonNullNamed (.literal "Boolean")⟩,
    ⟨.literal "deprecationReason", none, .named (.literal "String")⟩]

/-- A directive. -/
def directive : Definition where
  name := .literal "__Directive"
  description := some
    ("A Directive provides a way to describe alternate runtime execution "
      ++ "and type validation behavior in a GraphQL document.\n\nIn some "
      ++ "cases, you need to provide options to alter GraphQL's execution "
      ++ "behavior in ways field arguments will not suffice, such as "
      ++ "conditionally including or skipping a field. Directives provide "
      ++ "this by describing additional information to the executor.")
  members := .object [
    ⟨.literal "name", none, .nonNullNamed (.literal "String")⟩,
    ⟨.literal "description", none, .named (.literal "String")⟩,
    ⟨.literal "locations", none,
      .nonNullList (.nonNullNamed (.literal "__DirectiveLocation"))⟩,
    ⟨.literal "args", none,
      .nonNullList (.nonNullNamed (.literal "__InputValue"))⟩,
    ⟨.literal "isRepeatable", none, .nonNullNamed (.literal "Boolean")⟩]

/-- The places that a directive may stand at. -/
def directiveLocation : Definition where
  name := .literal "__DirectiveLocation"
  description := some
    ("A Directive can be adjacent to many parts of the GraphQL language, a "
      ++ "__DirectiveLocation describes one such possible adjacencies.")
  members := .enum [
    ⟨.literal "QUERY", some "Location adjacent to a query operation."⟩,
    ⟨.literal "MUTATION", some "Location adjacent to a mutation operation."⟩,
    ⟨.literal "SUBSCRIPTION", some
      "Location adjacent to a subscription operation."⟩,
    ⟨.literal "FIELD", some "Location adjacent to a field."⟩,
    ⟨.literal "FRAGMENT_DEFINITION", some
      "Location adjacent to a fragment definition."⟩,
    ⟨.literal "FRAGMENT_SPREAD", some
      "Location adjacent to a fragment spread."⟩,
    ⟨.literal "INLINE_FRAGMENT", some
      "Location adjacent to an inline fragment."⟩,
    ⟨.literal "VARIABLE_DEFINITION", some
      "Location adjacent to a variable definition."⟩,
    ⟨.literal "SCHEMA", some "Location adjacent to a schema definition."⟩,
    ⟨.literal "SCALAR", some "Location adjacent to a scalar definition."⟩,
    ⟨.literal "OBJECT", some
      "Location adjacent to an object type definition."⟩,
    ⟨.literal "FIELD_DEFINITION", some
      "Location adjacent to a field definition."⟩,
    ⟨.literal "ARGUMENT_DEFINITION", some
      "Location adjacent to an argument definition."⟩,
    ⟨.literal "INTERFACE", some
      "Location adjacent to an interface definition."⟩,
    ⟨.literal "UNION", some "Location adjacent to a union definition."⟩,
    ⟨.literal "ENUM", some "Location adjacent to an enum definition."⟩,
    ⟨.literal "ENUM_VALUE", some
      "Location adjacent to an enum value definition."⟩,
    ⟨.literal "INPUT_OBJECT", some
      "Location adjacent to an input object type definition."⟩,
    ⟨.literal "INPUT_FIELD_DEFINITION", some
      "Location adjacent to an input object field definition."⟩]

/-- Whole numbers. -/
def int : Definition where
  name := .literal "Int"
  description := some
    ("The `Int` scalar type represents non-fractional signed whole numeric "
      ++ "values. Int can represent values between -(2^31) and 2^31 - 1.")
  members := .scalar

/-- Fractional numbers. -/
def float : Definition where
  name := .literal "Float"
  description := some
    ("The `Float` scalar type represents signed double-precision fractional "
      ++ "values as specified by [IEEE "
      ++ "754](https://en.wikipedia.org/wiki/IEEE_floating_point).")
  members := .scalar

/-- Texts. -/
def string : Definition where
  name := .literal "String"
  description := some
    ("The `String` scalar type represents textual data, represented as "
      ++ "UTF-8 character sequences. The String type is most often used by "
      ++ "GraphQL to represent free-form human-readable text.")
  members := .scalar

/-- Truth values. -/
def boolean : Definition where
  name := .literal "Boolean"
  description := some
    "The `Boolean` scalar type represents `true` or `false`."
  members := .scalar

/-- Identifiers. -/
def id : Definition where
  name := .literal "ID"
  description := some
    ("The `ID` scalar type represents a unique identifier, often used to "
      ++ "refetch an object or as key for a cache. The ID type appears in a "
      ++ "JSON response as a String; however, it is not intended to be "
      ++ "human-readable. When expected as an input type, any string (such "
      ++ "as `\"4\"`) or integer (such as `4`) input value will be accepted "
      ++ "as an ID.")
  members := .scalar

-- ============================================================ the list

/-- The types that every schema has, in the order of a schema's list. -/
def types : List Definition :=
  [schema, type, typeKind, field, inputValue, enumValue, directive,
    directiveLocation, int, float, string, boolean, id]

/-- The names of those types. -/
def names : List Name := types.map Definition.name

/-- Whether every schema has a type of that name. -/
def isName (name : Name) : Bool := names.contains name

end SchemaDocs.Sdl.Builtin
