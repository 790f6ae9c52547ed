/-
Names in what is loaded from the schema language.

A document in the schema language may be full of mistakes: types that are
defined twice, members that are repeated in an extension, items that
break off. Whatever it is, the types that are loaded from it are well
named: no two types share a name, nor do two members of a type, all names
are names of the language, and every field refers to one (`WellNamed`).

Pages rely on it. A listed type has a page of its own, every field shows
the name of its type, and that name is linked as soon as a type has it
(`load_wellNamed`).

# Where it comes from

That names are names is part of the type of definitions, and that a type
expression refers to a name was shown with its layers. Distinctness is
made in two places, and by the same fold: the first definition of a name
stands, and so does the first member (`nodup_firsts`). What remains is
that describing a definition keeps its names apart.
-/
import Mathlib.Data.List.Nodup
import SchemaDocs.Sdl.Schema
import SchemaDocs.Proofs.Page.Navigation

namespace SchemaDocs

-- ========================================================== well named

/-- A letter or an underscore, and behind it letters, digits and
underscores. -/
def IsGraphQLName (text : String) : Prop :=
  ∃ first rest, text.toList = first :: rest
    ∧ (first.isAlpha = true ∨ first = '_')
    ∧ ∀ c ∈ rest, c.isAlpha = true ∨ c.isDigit = true ∨ c = '_'

/-- The names of the fields, union members or enum values. -/
def Body.names : Body → List String
  | .object fields | .inputObject fields | .interface fields =>
      fields.map Field.name
  | .union members => members
  | .enum values => values.map EnumValue.name
  | .scalar => []

/-- The names of a type and in it. -/
structure TypeDef.WellNamed (type : TypeDef) : Prop where
  name : IsGraphQLName type.name
  distinct : type.body.names.Nodup
  member : ∀ name ∈ type.body.names, IsGraphQLName name
  reference : ∀ field ∈ type.fields,
    ∃ target, field.type.target = some target ∧ IsGraphQLName target

/-- The names of a schema. -/
structure WellNamed (types : List TypeDef) : Prop where
  distinct : (types.map TypeDef.name).Nodup
  type : ∀ type ∈ types, type.WellNamed

-- =========================================================== definitions

namespace Sdl

theorem Name.isGraphQLName (name : Name) : IsGraphQLName name.text := by
  have hvalid := name.valid
  cases hchars : name.text.toList with
  | nil =>
      rw [hchars] at hvalid
      cases hvalid
  | cons first rest =>
      rw [hchars] at hvalid
      simp only [isName, Bool.and_eq_true, List.all_eq_true, startsName,
        continuesName, Bool.or_eq_true, decide_eq_true_eq] at hvalid
      refine ⟨first, rest, hchars, hvalid.1, fun c hc => ?_⟩
      rcases hvalid.2 c hc with (hletter | hscore) | hdigit
      · exact .inl hletter
      · exact .inr (.inr hscore)
      · exact .inr (.inl hdigit)

/-- Distinct names have distinct texts. -/
theorem nodup_map_text {names : List Name} (h : names.Nodup) :
    (names.map Name.text).Nodup :=
  h.map fun _ _ => Name.ext

/-- Of the members of a name one is left. -/
theorem Members.nodup_firsts (members : Members) :
    members.firsts.names.Nodup := by
  cases members with
  | object fields | inputObject fields | interface fields =>
      exact Sdl.nodup_firsts FieldDef.name fields
  | union types =>
      have h := Sdl.nodup_firsts id types
      rw [List.map_id] at h
      exact h
  | enum values => exact Sdl.nodup_firsts ValueDef.name values
  | scalar => exact List.nodup_nil

variable {definition : Definition}

/-- Members are described under their names. -/
theorem names_describe (members : Members) :
    members.describe.names = members.names.map Name.text := by
  cases members with
  | object fields | inputObject fields | interface fields =>
      simp [Members.describe, Body.names, Members.names, FieldDef.describe]
  | union types => rfl
  | enum values =>
      simp [Members.describe, Body.names, Members.names, ValueDef.describe]
  | scalar => rfl

/-- Every field that is described comes from one that is defined. -/
theorem exists_of_mem_fields_describe {members : Members} {field : Field}
    (h : field ∈ members.describe.fields) :
    ∃ defined : FieldDef, field = defined.describe := by
  cases members with
  | object fields | inputObject fields | interface fields =>
      obtain ⟨defined, -, rfl⟩ := List.mem_map.mp h
      exact ⟨defined, rfl⟩
  | union types | enum values | scalar => cases h

/-- A definition whose members have distinct names is described as a type
that is well named. -/
theorem wellNamed_describe (h : definition.members.names.Nodup) :
    definition.describe.WellNamed where
  name := definition.name.isGraphQLName
  distinct := by
    show definition.members.describe.names.Nodup
    rw [names_describe]
    exact nodup_map_text h
  member name hname := by
    have hmem : name ∈ definition.members.describe.names := hname
    rw [names_describe] at hmem
    obtain ⟨defined, -, rfl⟩ := List.mem_map.mp hmem
    exact defined.isGraphQLName
  reference field hfield := by
    obtain ⟨defined, rfl⟩ := exists_of_mem_fields_describe hfield
    exact ⟨_, defined.type.target_layers,
      defined.type.innermost.isGraphQLName⟩

-- ============================================================ documents

/-- No two types of a document share a name, built-in or not. -/
theorem nodup_types (items : List Item) :
    ((types items).map Definition.name).Nodup := by
  unfold types
  rw [List.map_map]
  exact nodup_firsts Definition.name _

/-- Neither do two members of a type, wherever they come from. -/
theorem nodup_members_of_mem_types {items : List Item}
    (h : definition ∈ types items) : definition.members.names.Nodup := by
  obtain ⟨defined, -, rfl⟩ := List.mem_map.mp h
  exact Members.nodup_firsts _

theorem wellNamed_types (items : List Item) :
    WellNamed ((types items).map Definition.describe) where
  distinct := by
    have h := nodup_map_text (nodup_types items)
    rw [List.map_map] at h ⊢
    exact h
  type type htype := by
    obtain ⟨definition, hdefinition, rfl⟩ := List.mem_map.mp htype
    exact wellNamed_describe (nodup_members_of_mem_types hdefinition)

end Sdl

-- =============================================================== pages

namespace Page

variable {types : List TypeDef}

/-- Where names are distinct, a name is found once or not at all. -/
theorem namedOnce_iff_mem (h : (types.map TypeDef.name).Nodup)
    (name : String) :
    NamedOnce types name ↔ name ∈ types.map TypeDef.name := by
  unfold NamedOnce
  rw [← List.length_eq_one_iff, length_typesNamed]
  exact ⟨fun hone => List.count_pos_iff.mp (by omega),
    List.count_eq_one_of_mem h⟩

/-- How the types of a schema are shown. -/
structure ShownByName (types : List TypeDef) : Prop where
  /-- Each type has a page of its own, which is its block. -/
  page : ∀ type ∈ types, ∀ base options,
    typesNamed types type.name = [type]
      ∧ render types base options type.name
        = .ok (block types base options type)
  /-- Each field has a row there, which shows the name of the field's
  type, with a link if a type of the schema has that name and without one
  if none has. -/
  row : ∀ type ∈ types, ∀ field ∈ type.fields, ∀ base options,
    ∃ target, field.type.target = some target ∧ IsGraphQLName target
      ∧ Holds (block types base options type)
          (Table.fieldRow types base options.descriptions field)
      ∧ (Table.fieldRow types base options.descriptions field
          = rowShowing options.descriptions field (linkedText base target)
        ↔ target ∈ types.map TypeDef.name)
      ∧ (Table.fieldRow types base options.descriptions field
          = rowShowing options.descriptions field (plainText target)
        ↔ target ∉ types.map TypeDef.name)

theorem shownByName_of_wellNamed (h : WellNamed types) :
    ShownByName types where
  page type htype base options := by
    have hname := List.mem_map_of_mem (f := TypeDef.name) htype
    obtain ⟨found, hfound, hpage⟩ := oneBlock_of_namedOnce
      ((namedOnce_iff_mem h.distinct _).mpr hname) base options
    have hmem : type ∈ typesNamed types type.name :=
      List.mem_filter.mpr ⟨htype, beq_self_eq_true _⟩
    rw [hfound] at hmem
    obtain rfl : type = found := List.mem_singleton.mp hmem
    exact ⟨hfound, hpage⟩
  row type htype field hfield base options := by
    obtain ⟨target, htarget, hvalid⟩ :=
      (h.type type htype).reference field hfield
    have hshown : Table.shownType field = target := by
      unfold Table.shownType
      rw [htarget]
      rfl
    have hone := namedOnce_iff_mem h.distinct target
    refine ⟨target, htarget, hvalid, holds_fieldRow hfield, ?_, ?_⟩
    · rw [← hshown, fieldRow_eq_linked_iff, hshown]
      exact hone
    · rw [← hshown, fieldRow_eq_plain_iff, hshown]
      exact not_congr hone

end Page

-- ============================================================= loading

/-- Whatever is loaded from the schema language is well named, and so is
shown as it should be. -/
theorem load_wellNamed (text : String) (types : List TypeDef)
    (h : Sdl.load text = .ok types) :
    WellNamed types ∧ Page.ShownByName types := by
  have hnamed : WellNamed types := by
    rw [Sdl.described_of_load h]
    exact Sdl.wellNamed_types _
  exact ⟨hnamed, Page.shownByName_of_wellNamed hnamed⟩

/-- A document with two definitions of a type, two fields of a name, a
scalar that every schema has, and an item that breaks off. -/
def stray : String :=
  "type Pet\x7ba:[Cat!]!a:Int\x7dtype Pet\x7bb:Int\x7dscalar Int " ++
    "extend type Pet\x7bc:Pet\x7dtype\x7b"

/-- Its items. -/
def strayItems : List Sdl.Item :=
  [.type ⟨.literal "Pet", none, .object [
      ⟨.literal "a", none, .nonNullList (.nonNullNamed (.literal "Cat"))⟩,
      ⟨.literal "a", none, .named Sdl.Builtin.int.name⟩]⟩,
    .type ⟨.literal "Pet", none, .object [
      ⟨.literal "b", none, .named Sdl.Builtin.int.name⟩]⟩,
    .type ⟨Sdl.Builtin.int.name, none, .scalar⟩,
    .extension ⟨.literal "Pet", .object [
      ⟨.literal "c", none, .named (.literal "Pet")⟩]⟩]

/-- The one pet that is loaded from it. -/
def strayPet : TypeDef :=
  ⟨"Pet", none, .object [
    ⟨"a", none, .nonNull (.list (.nonNull (.named "Cat")))⟩,
    ⟨"c", none, .named "Pet"⟩]⟩

/-- The document is loaded with its mistakes. The pet has a page of its
own, on which the field of its own type is linked. -/
theorem load_wellNamed_stray :
    ∃ types, Sdl.load stray = .ok types ∧ WellNamed types
      ∧ typesNamed types "Pet" = [strayPet]
      ∧ Table.fieldRow types .standard true ⟨"c", none, .named "Pet"⟩
        = Page.rowShowing true ⟨"c", none, .named "Pet"⟩
            (Page.linkedText .standard "Pet") := by
  have hitems : Sdl.readDocument stray = (strayItems, false) :=
    by decide +kernel
  have hload : Sdl.load stray
      = .ok ((Sdl.types strayItems).map Sdl.Definition.describe) := by
    unfold Sdl.load Sdl.read Sdl.Outcome.result
    rw [hitems]
    exact if_pos (by decide +kernel)
  have hpet : strayPet
      ∈ (Sdl.types strayItems).map Sdl.Definition.describe :=
    List.mem_of_getElem? (i := 13) rfl
  obtain ⟨hnamed, hshown⟩ := load_wellNamed stray _ hload
  have hpage := (hshown.page strayPet hpet .standard {}).1
  obtain ⟨target, htarget, -, -, hlinked, -⟩ :=
    hshown.row strayPet hpet ⟨"c", none, .named "Pet"⟩ (by decide) .standard {}
  obtain rfl : "Pet" = target := Option.some.inj htarget
  exact ⟨_, hload, hnamed, hpage, hlinked.mpr (List.mem_map_of_mem hpet)⟩

end SchemaDocs
