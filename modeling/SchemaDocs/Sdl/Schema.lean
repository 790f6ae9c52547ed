/-
The types of a document.

The first definition of a name stands, and the types that every schema has
come before all others. An extension adds its members behind those of the
definition, wherever it stands in the document; of two members of one name
the first stands. What stands in the way of another item is a mistake, and
so is an item that leads nowhere; they only matter if nothing is left.
-/
import SchemaDocs.Sdl.Builtin
import SchemaDocs.Sdl.Document

namespace SchemaDocs.Sdl

-- ============================================================ members

/-- The items with `item` behind them, unless they have one of its name. -/
def addNew {α : Type} (name : α → Name) (items : List α) (item : α) : List α :=
  if (items.map name).contains (name item) then items else items ++ [item]

/-- The items, each name once: of two items of one name the first. -/
def firsts {α : Type} (name : α → Name) (items : List α) : List α :=
  items.foldl (addNew name) []

/-- Adding an item keeps names apart. -/
theorem nodup_addNew {α : Type} {name : α → Name} {items : List α} {item : α}
    (h : (items.map name).Nodup) :
    ((addNew name items item).map name).Nodup := by
  unfold addNew
  split
  · exact h
  · rename_i hn
    simp only [List.contains_eq_mem, decide_eq_true_eq] at hn
    rw [List.map_append, List.nodup_append]
    refine ⟨h, by simp, ?_⟩
    intro a ha b hb hab
    simp only [List.map_cons, List.map_nil, List.mem_singleton] at hb
    exact hn (hb ▸ hab ▸ ha)

/-- No two of the firsts share a name. -/
theorem nodup_firsts {α : Type} (name : α → Name) (items : List α) :
    ((firsts name items).map name).Nodup := by
  suffices h : ∀ kept : List α, (kept.map name).Nodup →
      ((items.foldl (addNew name) kept).map name).Nodup from
    h [] List.nodup_nil
  induction items with
  | nil => exact fun _ h => h
  | cons item rest ih => exact fun _ h => ih _ (nodup_addNew h)

/-- Members with those of an extension behind them; members of another
kind add nothing. -/
def Members.append : Members → Members → Members
  | .object fields, .object more => .object (fields ++ more)
  | .inputObject fields, .inputObject more => .inputObject (fields ++ more)
  | .interface fields, .interface more => .interface (fields ++ more)
  | .union types, .union more => .union (types ++ more)
  | .enum values, .enum more => .enum (values ++ more)
  | members, _ => members

/-- The members, each name once. -/
def Members.firsts : Members → Members
  | .object fields => .object (Sdl.firsts FieldDef.name fields)
  | .inputObject fields => .inputObject (Sdl.firsts FieldDef.name fields)
  | .interface fields => .interface (Sdl.firsts FieldDef.name fields)
  | .union types => .union (Sdl.firsts id types)
  | .enum values => .enum (Sdl.firsts ValueDef.name values)
  | .scalar => .scalar

-- ============================================================ types

/-- The definitions among the items. -/
def definitions (items : List Item) : List Definition :=
  items.filterMap fun
    | .type definition => some definition
    | _ => none

/-- The extensions among the items. -/
def extensions (items : List Item) : List Extension :=
  items.filterMap fun
    | .extension extension => some extension
    | _ => none

/-- The types that have a definition, built-in or in the document. -/
def defined (items : List Item) : List Definition :=
  firsts Definition.name (Builtin.types ++ definitions items)

/-- The members of a definition and of the extensions of its name. -/
def allMembers (extensions : List Extension) (definition : Definition) :
    Members :=
  ((extensions.filter fun extension => extension.name = definition.name).map
    Extension.members).foldl Members.append definition.members

/-- The types of a document. -/
def types (items : List Item) : List Definition :=
  (defined items).map fun definition =>
    { definition with
      members := (allMembers (extensions items) definition).firsts }

-- ============================================================ mistakes

/-- Whether an extension finds a type of its name and kind. -/
def applies (definitions : List Definition) (extension : Extension) : Bool :=
  definitions.any fun definition =>
    definition.name = extension.name
      && definition.members.kind = extension.members.kind

/-- Whether a request would find a root type by its usual name. -/
def hasUsualRoot (definitions : List Definition) : Bool :=
  definitions.any fun definition =>
    definition.members.kind = .object
      && ["Query", "Mutation", "Subscription"].contains definition.name.text

/-- The root operations of each schema definition among the items. -/
def schemas (items : List Item) : List (List Operation) :=
  items.filterMap fun
    | .schema roots => some roots
    | _ => none

/-- The root operations of each extension of the schema. -/
def schemaExtensions (items : List Item) : List (List Operation) :=
  items.filterMap fun
    | .schemaExtension roots => some roots
    | _ => none

/-- Whether the items agree on the schema: it is defined once, if at all,
each operation has one root, and an extension of it has something to
extend. -/
def agreeOnSchema (items : List Item) : Bool :=
  match schemas items with
  | [] => (schemaExtensions items).isEmpty || hasUsualRoot (defined items)
  | [roots] => decide ((roots ++ (schemaExtensions items).flatten).Nodup)
  | _ => false

/-- Whether no item stands in the way of another or leads nowhere. -/
def inOrder (items : List Item) : Bool :=
  let definitions := definitions items
  let extensions := extensions items
  let defined := defined items
  decide ((Builtin.types ++ definitions).map Definition.name).Nodup
    && extensions.all (applies defined)
    && (defined.all fun definition =>
      decide (allMembers extensions definition).names.Nodup)
    && decide (items.filterMap fun
      | .directive name => some name
      | _ => none).Nodup
    && agreeOnSchema items
    && !items.contains .executable

-- ============================================================ loading

/-- A document of which nothing is left. -/
inductive Error
  | nothingReadable
  deriving DecidableEq, Repr

/-- The wording of an error. It is this library's own and stands for the
list of mistakes that a compiler of the language would print. -/
def Error.message : Error → String
  | .nothingReadable => "the schema has errors and defines no type"

/-- What became of a document. -/
structure Outcome where
  /-- Its types. -/
  types : List Definition
  /-- Whether all of it was in order. -/
  sound : Bool
  deriving DecidableEq, Repr

/-- Reads a document, whatever is wrong with it. -/
def read (text : String) : Outcome :=
  let (items, sound) := readDocument text
  ⟨types items, sound && inOrder items⟩

/-- Whether types of the document itself are among the types. -/
def Outcome.hasOwnTypes (outcome : Outcome) : Bool :=
  outcome.types.any fun definition => !Builtin.isName definition.name

/-- The types as pages show them. Mistakes are forgiven as long as one
type of the document itself is left. -/
def Outcome.result (outcome : Outcome) : Except Error (List TypeDef) :=
  if outcome.sound || outcome.hasOwnTypes then
    .ok (outcome.types.map Definition.describe)
  else .error .nothingReadable

/-- The types of a document as pages show them. -/
def load (text : String) : Except Error (List TypeDef) := (read text).result

/-- The reader of the schema language describes the types one by one. -/
theorem described_of_load {text : String} {described : List TypeDef}
    (h : load text = .ok described) :
    described = (read text).types.map Definition.describe := by
  unfold load Outcome.result at h
  split at h
  · exact (Except.ok.inj h).symm
  · cases h

end SchemaDocs.Sdl
