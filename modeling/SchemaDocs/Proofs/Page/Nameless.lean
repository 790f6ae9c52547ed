/-
Fields without a type.

A field may come without a type, or with layers around nothing. Its row
shows the empty name then, as a piece of code with nothing in it. But the
empty name is looked up as all names are, and a type of that name may be
in an introspection document. If exactly one is, the row of a field that
refers to nothing has a link, and the link leads to that type
(`nameless_linked_iff`). In schemas that were loaded from the schema
language no type is nameless, and the row has no link.
-/
import SchemaDocs.Introspection.Document
import SchemaDocs.Proofs.Sdl.WellNamed

namespace SchemaDocs

/-- Where types are well named, none is nameless. -/
theorem WellNamed.not_namedOnce_empty {types : List TypeDef}
    (h : WellNamed types) : ¬ NamedOnce types "" := by
  rintro ⟨type, htype⟩
  have hmem : type ∈ typesNamed types "" :=
    htype ▸ List.mem_singleton_self type
  have hname := Page.name_of_mem_typesNamed hmem
  obtain ⟨first, rest, hchars, -⟩ :=
    (h.type type (List.mem_filter.mp hmem).1).name
  rw [hname] at hchars
  cases hchars

namespace Table

variable {types : List TypeDef} {base : PageBase} {descriptions : Bool}
  {field : Field}

open Page (rowShowing linkedText plainText)

/-- A field that refers to nothing shows the empty name. -/
theorem shownType_of_nameless (h : field.type.Nameless) :
    shownType field = "" := by
  unfold shownType
  rw [Reference.target_eq_none_iff.mpr h]
  rfl

/-- How a field that refers to nothing is shown. -/
structure ShownNameless (types : List TypeDef) (base : PageBase)
    (descriptions : Bool) (field : Field) : Prop where
  /-- Its row has an empty piece of code for the type, and no link, unless
  exactly one type is nameless. -/
  plain : fieldRow types base descriptions field
      = rowShowing descriptions field "``"
    ↔ ¬ NamedOnce types ""
  unlinked : (linkTo types base (shownType field)).url? = none
    ↔ ¬ NamedOnce types ""
  /-- If one is, the row has a link to the page of that type. -/
  linked : fieldRow types base descriptions field
      = rowShowing descriptions field (linkedText base "")
    ↔ NamedOnce types ""

theorem shownNameless (h : field.type.Nameless) (types : List TypeDef)
    (base : PageBase) (descriptions : Bool) :
    ShownNameless types base descriptions field where
  plain := by
    have hrow : fieldRow types base descriptions field
          = rowShowing descriptions field (plainText (shownType field))
        ↔ ¬ NamedOnce types (shownType field) := Page.fieldRow_eq_plain_iff
    rwa [shownType_of_nameless h] at hrow
  unlinked := by
    rw [shownType_of_nameless h]
    exact Page.url_eq_none_iff
  linked := by
    have hrow : fieldRow types base descriptions field
          = rowShowing descriptions field (linkedText base (shownType field))
        ↔ NamedOnce types (shownType field) := Page.fieldRow_eq_linked_iff
    rwa [shownType_of_nameless h] at hrow

/-- A field that refers to nothing is linked exactly if one type of the
schema is nameless, and else shows an empty piece of code. This is so in
the table of any fields. No type is nameless in a schema that was loaded
from the schema language. -/
theorem nameless_linked_iff (types : List TypeDef) (base : PageBase)
    (descriptions : Bool) (owner : Owner) (name : String)
    (fields : List Field) :
    (∀ text, Sdl.load text = .ok types → ¬ NamedOnce types "")
      ∧ ∃ ordered : List Field, ordered.Perm fields
        ∧ ofFields types base descriptions owner name fields
          = opening descriptions owner.keyword
              (linkTo types base name).markdown
            ++ delimiter descriptions
            ++ String.join (ordered.map (fieldRow types base descriptions))
            ++ closing descriptions
        ∧ ∀ field ∈ ordered, field.type.Nameless →
            ShownNameless types base descriptions field := by
  constructor
  · intro text h
    rw [Sdl.described_of_load h]
    exact (Sdl.wellNamed_types _).not_namedOnce_empty
  · obtain ⟨ordered, hperm, hsorted⟩ :=
      Text.exists_sorted_map (fieldRow types base descriptions) fields
    refine ⟨ordered, hperm, ?_, fun field _ hnameless =>
      shownNameless hnameless types base descriptions⟩
    rw [← hsorted]
    rfl

/-- A document with a nameless scalar, and a field with a layer around
nothing. -/
def ghostText : String :=
  "[\x7b\"kind\":\"SCALAR\",\"name\":\"\"\x7d," ++
    "\x7b\"kind\":\"OBJECT\",\"name\":\"User\",\"fields\":[" ++
    "\x7b\"name\":\"mystery\",\"type\":" ++
    "\x7b\"ofType\":\x7b\"name\":\"\"\x7d\x7d\x7d]\x7d]"

/-- The field. -/
def mystery : Field := ⟨"mystery", none, [⟨none, none⟩, ⟨none, some ""⟩]⟩

/-- The types that are loaded from the document. -/
def ghosts : List TypeDef :=
  [⟨"", none, .scalar⟩, ⟨"User", none, .object [mystery]⟩]

/-- The field has a link among these types, and none without the nameless
one. -/
theorem nameless_linked_iff_ghosts :
    Introspection.load ghostText = .ok ghosts
      ∧ mystery.type.Nameless
      ∧ fieldRow ghosts .standard false mystery
        = "| &nbsp; &nbsp; `mystery:` [``]"
          ++ "(http://localhost:3000/?page=printType:) |\n"
      ∧ fieldRow (ghosts.drop 1) .standard false mystery
        = "| &nbsp; &nbsp; `mystery:` `` |\n" := by
  have hload : Introspection.load ghostText = .ok ghosts := by decide +kernel
  have hnameless : mystery.type.Nameless := by
    unfold Reference.Nameless
    decide
  have hone : NamedOnce ghosts "" := ⟨⟨"", none, .scalar⟩, by decide⟩
  have hnone : ¬ NamedOnce (ghosts.drop 1) "" := by
    rintro ⟨type, htype⟩
    have hempty : typesNamed (ghosts.drop 1) "" = [] := by decide
    rw [hempty] at htype
    cases htype
  have hshown : ∀ types, ShownNameless types .standard false mystery := by
    intro types
    obtain ⟨-, ordered, hperm, -, hrows⟩ := nameless_linked_iff types .standard
      false .type "User" [mystery]
    exact hrows mystery (hperm.mem_iff.mpr List.mem_cons_self) hnameless
  exact ⟨hload, hnameless, (hshown ghosts).linked.mpr hone,
    (hshown (ghosts.drop 1)).plain.mpr hnone⟩

end Table

end SchemaDocs
