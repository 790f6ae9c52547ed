/-
The layouts of bodies, and the links in them.

Six kinds of types are shown in four layouts. Objects, input objects and
interfaces share one, the table of fields, in which a keyword stands for
the kind; unions, enums and scalars have their own. What is proved about
bodies goes by layout, not by kind: `Kind.layout` splits the cases, and
`body_of_owner` and its like say what the body is in each.

Links stand in tables of fields only. Whether a name is linked depends on
the list of types through one question, whether exactly one of them has
the name (`NamedOnce`); what a page takes from a schema beyond its own
types is the answer to this question for the names it shows.
-/
import SchemaDocs.Page.Render

namespace SchemaDocs

-- ============================================================== layouts

/-- The keyword that a kind with fields is shown under. -/
def Kind.owner? : Kind → Option Table.Owner
  | object | inputObject => some .type
  | interface => some .interface
  | union | enum | scalar => none

/-- The four layouts. -/
theorem Kind.layout (kind : Kind) :
    (∃ owner, kind.owner? = some owner)
      ∨ kind = .union ∨ kind = .enum ∨ kind = .scalar := by
  cases kind <;> simp [Kind.owner?]

/-- The members of a union; the other kinds have none. -/
def TypeDef.members (type : TypeDef) : List String :=
  match type.body with
  | .union members => members
  | _ => []

/-- The values of an enum; the other kinds have none. -/
def TypeDef.values (type : TypeDef) : List EnumValue :=
  match type.body with
  | .enum values => values
  | _ => []

/-- A type that is not shown as a table of fields has none. -/
theorem TypeDef.fields_of_owner_none {type : TypeDef}
    (h : type.kind.owner? = none) : type.fields = [] := by
  obtain ⟨name, description, members⟩ := type
  cases members with
  | object fields | inputObject fields | interface fields => cases h
  | union members | enum values | scalar => rfl

/-- Only unions have members. -/
theorem TypeDef.members_of_ne_union {type : TypeDef}
    (h : type.kind ≠ .union) : type.members = [] := by
  obtain ⟨name, description, members⟩ := type
  cases members with
  | union members => exact absurd rfl h
  | object _ | inputObject _ | interface _ | enum _ | scalar => rfl

theorem TypeDef.values_of_ne_enum {type : TypeDef}
    (h : type.kind ≠ .enum) : type.values = [] := by
  obtain ⟨name, description, members⟩ := type
  cases members with
  | enum values => exact absurd rfl h
  | object _ | inputObject _ | interface _ | union _ | scalar => rfl

namespace Page

variable {types : List TypeDef} {base : PageBase} {descriptions : Bool}
  {type : TypeDef}

/-- A type with fields shows a table of them. -/
theorem body_of_owner {owner : Table.Owner}
    (h : type.kind.owner? = some owner) :
    body types base descriptions type
      = Table.ofFields types base descriptions owner type.name
        type.fields := by
  obtain ⟨name, description, fields⟩ := type
  cases fields <;> cases h <;> rfl

theorem body_of_union (h : type.kind = .union) :
    body types base descriptions type = unionBody type.name type.members := by
  obtain ⟨name, description, members⟩ := type
  cases members <;> cases h
  rfl

/-- An enum shows a table of its values. -/
theorem body_of_enum (h : type.kind = .enum) :
    body types base descriptions type
      = Table.ofValues descriptions type.name type.values := by
  obtain ⟨name, description, values⟩ := type
  cases values <;> cases h
  rfl

theorem body_of_scalar (h : type.kind = .scalar) :
    body types base descriptions type
      = scalarBody type.name type.description := by
  obtain ⟨name, description, members⟩ := type
  cases members <;> cases h
  rfl

end Page

-- =============================================================== tables

namespace Table

/-- A table of fields, row by row. -/
theorem ofFields_eq_join (types : List TypeDef) (base : PageBase)
    (descriptions : Bool) (owner : Owner) (name : String)
    (fields : List Field) :
    ofFields types base descriptions owner name fields
      = String.join (opening descriptions owner.keyword
            (linkTo types base name).markdown :: delimiter descriptions
          :: (Text.sorted (fields.map (fieldRow types base descriptions))
            ++ [closing descriptions])) := by
  unfold ofFields
  rw [← String.toList_inj]
  simp

/-- The table of an enum, row by row. -/
theorem ofValues_eq_join (descriptions : Bool) (name : String)
    (values : List EnumValue) :
    ofValues descriptions name values
      = String.join (opening descriptions "enum" ("`" ++ name ++ "`")
          :: delimiter descriptions
          :: (values.map (valueRow descriptions)
            ++ [closing descriptions])) := by
  unfold ofValues valueRows
  rw [← String.toList_inj]
  simp

end Table

-- ================================================================ links

/-- Exactly one of the types has the name. -/
def NamedOnce (types : List TypeDef) (name : String) : Prop :=
  ∃ type, typesNamed types name = [type]

/-- A name has as many types as it occurs among their names. -/
theorem length_typesNamed (types : List TypeDef) (name : String) :
    (typesNamed types name).length
      = (types.map TypeDef.name).count name := by
  rw [List.count, List.countP_map, List.countP_eq_length_filter]
  rfl

/-- A name that one type has is linked. -/
theorem linkTo_of_namedOnce {types : List TypeDef} {base : PageBase}
    {name : String} (h : NamedOnce types name) :
    linkTo types base name = .linked name (base.pageUrl name) :=
  if_pos (List.length_eq_one_iff.mpr h)

/-- A name is linked only if one type has it. -/
theorem linkTo_of_not_namedOnce {types : List TypeDef} {base : PageBase}
    {name : String} (h : ¬ NamedOnce types name) :
    linkTo types base name = .plain name :=
  if_neg fun hlen => h (List.length_eq_one_iff.mp hlen)

/-- What a link has of a character comes from the base and the name. -/
theorem not_mem_markdown {types : List TypeDef} {base : PageBase}
    {name : String} {c : Char}
    (hframe : c ∉ "[`](/?page=printType:)".toList)
    (hbase : c ∉ base.text.toList) (hname : c ∉ name.toList) :
    c ∉ (linkTo types base name).markdown.toList := by
  have htick : c ≠ '`' := fun h => hframe (h ▸ by decide)
  unfold linkTo
  split
  · simpa [Link.markdown, PageBase.pageUrl, hbase, hname] using hframe
  · simp [Link.markdown, hname, htick]

/-- Two schemas that agree on whether a name is unique link it alike. -/
theorem linkTo_congr {types others : List TypeDef} {base : PageBase}
    {name : String} (h : NamedOnce types name ↔ NamedOnce others name) :
    linkTo types base name = linkTo others base name := by
  by_cases hname : NamedOnce types name
  · rw [linkTo_of_namedOnce hname, linkTo_of_namedOnce (h.mp hname)]
  · rw [linkTo_of_not_namedOnce hname,
      linkTo_of_not_namedOnce fun ho => hname (h.mpr ho)]

end SchemaDocs
