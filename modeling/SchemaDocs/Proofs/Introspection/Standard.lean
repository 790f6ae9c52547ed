/-
Standard introspection results.

What a server answers to the introspection query follows from its schema
up to the query's taste: the keys of a record stand in any order, others
stand among them (arguments, interfaces, deprecations), and the lists
that a kind does not have are null or anything else. `IsResult` says that
a document is such an answer for a schema, by what it asks of each record
under the keys that matter. It asks nothing of the reader: no definition
here mentions what becomes of a record when it is read.

One answer is written out (`resultOf`), so that every schema is known to
have one (`isResult_resultOf`).
-/
import Mathlib.Data.List.Forall2
import SchemaDocs.Introspection.Document
import SchemaDocs.Sdl.Schema

namespace SchemaDocs.Introspection

open Sdl (Name TypeExpr FieldDef ValueDef Members Definition)

-- ========================================================== references

/-- A layer of that kind and name, around `inner`. -/
structure IsLayer (kind : String) (name : Option String)
    (inner record : Json) : Prop where
  kind : record.get? "kind" = some (.string kind)
  name : record.get? "name" = some (.ofText? name)
  ofType : record.get? "ofType" = some inner

/-- A layer that carries a name. Its kind is that of some named type, and
there is nothing inside it. -/
def IsNamed (name : Name) (record : Json) : Prop :=
  ∃ kind : Kind, IsLayer kind.label (some name.text) .null record

/-- The reference that a type expression stands for, with one nameless
layer for each mark and each pair of brackets. -/
def IsReference : TypeExpr → Json → Prop
  | .named name, record => IsNamed name record
  | .nonNullNamed name, record =>
      ∃ inner, IsLayer "NON_NULL" none inner record ∧ IsNamed name inner
  | .list item, record =>
      ∃ inner, IsLayer "LIST" none inner record ∧ IsReference item inner
  | .nonNullList item, record =>
      ∃ list, IsLayer "NON_NULL" none list record
        ∧ ∃ inner, IsLayer "LIST" none inner list ∧ IsReference item inner

-- ============================================================= records

/-- The record of a field or an input field. -/
structure IsField (field : FieldDef) (record : Json) : Prop where
  name : record.get? "name" = some (.string field.name.text)
  description : record.get? "description" = some (.ofText? field.description)
  type : ∃ reference, record.get? "type" = some reference
    ∧ IsReference field.type reference

/-- The record of an enum value. -/
structure IsValue (value : ValueDef) (record : Json) : Prop where
  name : record.get? "name" = some (.string value.name.text)
  description : record.get? "description" = some (.ofText? value.description)

/-- The record of a union member. -/
def IsMember (name : Name) (record : Json) : Prop :=
  record.get? "name" = some (.string name.text)

/-- The list under a key holds a record for each item, in order. -/
def Lists {α : Type} (key : String) (IsRecord : α → Json → Prop)
    (items : List α) (record : Json) : Prop :=
  ∃ records, record.get? key = some (.array records)
    ∧ List.Forall₂ IsRecord items records

/-- The child list of a kind. -/
def HasMembers : Members → Json → Prop
  | .object fields | .interface fields => Lists "fields" IsField fields
  | .inputObject fields => Lists "inputFields" IsField fields
  | .union names => Lists "possibleTypes" IsMember names
  | .enum values => Lists "enumValues" IsValue values
  | .scalar => fun _ => True

/-- The record of a type. -/
structure IsType (definition : Definition) (record : Json) : Prop where
  kind : record.get? "kind" = some (.string definition.members.kind.label)
  name : record.get? "name" = some (.string definition.name.text)
  description :
    record.get? "description" = some (.ofText? definition.description)
  members : HasMembers definition.members record

-- =========================================================== documents

/-- The schema object of a document. -/
inductive SchemaOf : Json → Json → Prop
  /-- A whole response, whatever errors it reports besides. -/
  | response {document data schema : Json}
      (hdata : document.get? "data" = some data)
      (hschema : data.get? "__schema" = some schema) :
      SchemaOf document schema
  /-- The data of a response, which is none itself. -/
  | bare {document schema : Json} (hdata : document.get? "data" = none)
      (herrors : document.get? "errors" = none)
      (hschema : document.get? "__schema" = some schema) :
      SchemaOf document schema

/-- The document is a standard introspection result of the schema. -/
def IsResult (schema : List Definition) (document : Json) : Prop :=
  ∃ object, SchemaOf document object ∧ Lists "types" IsType schema object

-- ======================================================== one result

/-- The kind of the type that a name stands for. -/
def kindOf (schema : List Definition) (name : Name) : Kind :=
  match schema.find? fun definition => definition.name = name with
  | some definition => definition.members.kind
  | none => .scalar

/-- A layer, written out. -/
def layer (kind : String) (name : Option String) (inner : Json) : Json :=
  .object [("kind", .string kind), ("name", .ofText? name), ("ofType", inner)]

/-- A layer that carries a name, written out. -/
def namedLayer (schema : List Definition) (name : Name) : Json :=
  layer (kindOf schema name).label (some name.text) .null

/-- A reference, written out. -/
def reference (schema : List Definition) : TypeExpr → Json
  | .named name => namedLayer schema name
  | .nonNullNamed name => layer "NON_NULL" none (namedLayer schema name)
  | .list item => layer "LIST" none (reference schema item)
  | .nonNullList item =>
      layer "NON_NULL" none (layer "LIST" none (reference schema item))

/-- A field or an input field, written out. -/
def fieldRecord (schema : List Definition) (field : FieldDef) : Json :=
  .object [("name", .string field.name.text),
    ("description", .ofText? field.description), ("args", .array []),
    ("type", reference schema field.type), ("isDeprecated", .bool false),
    ("deprecationReason", .null)]

/-- An enum value, written out. -/
def valueRecord (value : ValueDef) : Json :=
  .object [("name", .string value.name.text),
    ("description", .ofText? value.description),
    ("isDeprecated", .bool false), ("deprecationReason", .null)]

/-- The five lists of a type record, each of them null where the kind does
not have it. -/
def childLists (schema : List Definition) (members : Members) :
    List (String × Json) :=
  let fields := match members with
    | .object fields | .interface fields =>
        .array (fields.map (fieldRecord schema))
    | _ => .null
  let inputFields := match members with
    | .inputObject fields => .array (fields.map (fieldRecord schema))
    | _ => .null
  let interfaces := match members with
    | .object _ | .interface _ => .array []
    | _ => .null
  let enumValues := match members with
    | .enum values => .array (values.map valueRecord)
    | _ => .null
  let possibleTypes := match members with
    | .union names => .array (names.map (namedLayer schema))
    | _ => .null
  [("fields", fields), ("inputFields", inputFields),
    ("interfaces", interfaces), ("enumValues", enumValues),
    ("possibleTypes", possibleTypes)]

/-- A type, written out. -/
def typeRecord (schema : List Definition) (definition : Definition) : Json :=
  .object (("kind", .string definition.members.kind.label)
    :: ("name", .string definition.name.text)
    :: ("description", .ofText? definition.description)
    :: childLists schema definition.members)

/-- The response to the introspection query, written out. -/
def resultOf (schema : List Definition) : Json :=
  .object [("data", .object [("__schema", .object [
    ("types", .array (schema.map (typeRecord schema))),
    ("directives", .array [])])])]

variable (schema : List Definition)

/-- A layer that is written is a layer. -/
theorem isLayer_layer (kind : String) (name : Option String) (inner : Json) :
    IsLayer kind name inner (layer kind name inner) where
  kind := rfl
  name := rfl
  ofType := rfl

/-- So is the innermost one, with the kind that the schema gives the
name. -/
theorem isNamed_namedLayer (name : Name) :
    IsNamed name (namedLayer schema name) :=
  ⟨kindOf schema name, isLayer_layer _ _ _⟩

/-- A type expression is written as a reference to it, layer by layer. -/
theorem isReference_reference (type : TypeExpr) :
    IsReference type (reference schema type) := by
  induction type with
  | named name => exact isNamed_namedLayer schema name
  | nonNullNamed name =>
      exact ⟨_, isLayer_layer _ _ _, isNamed_namedLayer schema name⟩
  | list item ih => exact ⟨_, isLayer_layer _ _ _, ih⟩
  | nonNullList item ih =>
      exact ⟨_, isLayer_layer _ _ _, _, isLayer_layer _ _ _, ih⟩

/-- A field is written as a record of it. -/
theorem isField_fieldRecord (field : FieldDef) :
    IsField field (fieldRecord schema field) where
  name := rfl
  description := rfl
  type := ⟨_, rfl, isReference_reference schema field.type⟩

theorem isValue_valueRecord (value : ValueDef) :
    IsValue value (valueRecord value) where
  name := rfl
  description := rfl

/-- Records written one by one are a list of records. -/
theorem lists_map {α : Type} {key : String} {IsRecord : α → Json → Prop}
    {write : α → Json} (h : ∀ item, IsRecord item (write item))
    {items : List α} {record : Json}
    (hkey : record.get? key = some (.array (items.map write))) :
    Lists key IsRecord items record := by
  refine ⟨_, hkey, ?_⟩
  rw [List.forall₂_map_right_iff, List.forall₂_same]
  exact fun item _ => h item

/-- A definition is written as a record of its type. -/
theorem isType_typeRecord (definition : Definition) :
    IsType definition (typeRecord schema definition) where
  kind := rfl
  name := rfl
  description := rfl
  members := by
    obtain ⟨name, description, members⟩ := definition
    cases members with
    | object fields | interface fields | inputObject fields =>
        exact lists_map (isField_fieldRecord schema) rfl
    | union names =>
        exact lists_map
          (fun name => (isLayer_layer (kindOf schema name).label _ _).name) rfl
    | enum values => exact lists_map isValue_valueRecord rfl
    | scalar => trivial

/-- Every schema has a standard introspection result. -/
theorem isResult_resultOf : IsResult schema (resultOf schema) :=
  ⟨_, .response rfl rfl, lists_map (isType_typeRecord schema) rfl⟩

end SchemaDocs.Introspection
