/-
Reading the records of an introspection result.

Each record (a type, a field, an enum value, a union member, a reference)
is an object, or an array of the record's parts in a fixed order. Keys
that a record does not have are ignored. A type, field, value or member
that breaks the format is not read at all; a reference gives up the
damaged layer and what lies below it, and keeps the layers above.
-/
import SchemaDocs.Json.Basic
import SchemaDocs.Schema.Basic

namespace SchemaDocs.Introspection

open Json (lookup)

-- ============================================================ parts

/-- A part of a record: by key in an object, by position in an array. -/
def part (key : String) (position : Nat) : Json → Option Json
  | .object members => lookup key members
  | .array items => items[position]?
  | _ => none

/-- Whether a value can be a record of at most `width` parts. -/
def isRecord (width : Nat) : Json → Bool
  | .object _ => true
  | .array items => items.length ≤ width
  | _ => false

/-- A part is smaller than its record. -/
theorem sizeOf_part {key : String} {position : Nat} {record value : Json}
    (h : part key position record = some value) :
    sizeOf value < sizeOf record := by
  cases record with
  | object members =>
      have := Json.sizeOf_lookup h
      simp only [Json.object.sizeOf_spec]
      omega
  | array items =>
      have := List.sizeOf_lt_of_mem (List.mem_of_getElem? h)
      simp only [Json.array.sizeOf_spec]
      omega
  | _ => simp [part] at h

/-- A part that has to be a text. -/
def requiredText (value : Option Json) : Option String :=
  value.bind Json.text?

/-- A part that is a text, null or left out; `none` when it is anything
else. -/
def optionalText : Option Json → Option (Option String)
  | none | some .null => some none
  | some (.string text) => some (some text)
  | some _ => none

/-- A part that is a list of records, null or left out; one record that
`read` refuses spoils the list. -/
def childList {α : Type} (read : Json → Option α) :
    Option Json → Option (List α)
  | none | some .null => some []
  | some (.array items) => items.mapM read
  | some _ => none

-- ============================================================ references

/-- Reads a reference. A layer whose name is neither a text nor null is
not a layer, and the chain ends above it; a kind that is not a text is
left out. -/
def readReference (record : Json) : Reference :=
  if isRecord 3 record then
    match optionalText (part "name" 1 record) with
    | none => []
    | some name =>
        let kind := (part "kind" 0 record).bind Json.text?
        ⟨kind, name⟩ ::
          match h : part "ofType" 2 record with
          | none => []
          | some inner =>
              have := sizeOf_part h
              readReference inner
  else []
termination_by sizeOf record

-- ============================================================ members

/-- Reads a field or input field. -/
def readField (record : Json) : Option Field :=
  if isRecord 3 record then do
    let name ← requiredText (part "name" 0 record)
    let description ← optionalText (part "description" 1 record)
    let type := ((part "type" 2 record).map readReference).getD []
    some ⟨name, description, type⟩
  else none

/-- Reads an enum value. -/
def readEnumValue (record : Json) : Option EnumValue :=
  if isRecord 2 record then do
    let name ← requiredText (part "name" 0 record)
    let description ← optionalText (part "description" 1 record)
    some ⟨name, description⟩
  else none

/-- Reads a union member, which is only a name. -/
def readMember (record : Json) : Option String :=
  if isRecord 1 record then requiredText (part "name" 0 record) else none

-- ============================================================ types

/-- Reads what a type of that kind holds. Only the child list of the kind
is looked at. -/
def readBody (kind : Kind) (record : Json) : Option Body :=
  match kind with
  | .object => (childList readField (part "fields" 3 record)).map .object
  | .inputObject =>
      (childList readField (part "inputFields" 3 record)).map .inputObject
  | .interface => (childList readField (part "fields" 3 record)).map .interface
  | .union => (childList readMember (part "possibleTypes" 3 record)).map .union
  | .enum => (childList readEnumValue (part "enumValues" 3 record)).map .enum
  | .scalar => some .scalar

/-- The number of parts of a type record. -/
def typeWidth : Kind → Nat
  | .scalar => 3
  | _ => 4

/-- Reads a type. -/
def readType (record : Json) : Option TypeDef := do
  let kind ← (requiredText (part "kind" 0 record)).bind Kind.ofLabel?
  if isRecord (typeWidth kind) record then do
    let name ← requiredText (part "name" 1 record)
    let description ← optionalText (part "description" 2 record)
    let body ← readBody kind record
    some ⟨name, description, body⟩
  else none

end SchemaDocs.Introspection
