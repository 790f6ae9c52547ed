/-
What the block of a type tells.

A block shows a type with some liberty: input objects look like objects,
fields stand in an order of their own, of the layers around a field's
type only the name inside is kept, and a description that shares its
line with something else is folded to one line. `ToldAlike` says that
two types agree on everything else. Types that are told alike have the
same block (`block_eq_of_toldAlike`), whatever is shown, and even in the
pages of two schemas, as long as both link the same of the names in it.

# Why this is one lemma

A row is made from what is told of its field (`map_fieldRow`) and a
header from what is told of its type (`header_eq`), so the block needs
nothing else. The rows of two types told alike are the same texts in
another order, and sorting forgets the order.
-/
import SchemaDocs.Proofs.Page.Layout

namespace SchemaDocs

-- ========================================================= what is told

/-- The kind that a block shows. Input objects look like objects. -/
def Kind.shown : Kind → Kind
  | inputObject => object
  | kind => kind

/-- Kinds that look alike are shown under the same keyword. -/
theorem Kind.owner?_congr {k l : Kind} (h : k.shown = l.shown) :
    k.owner? = l.owner? := by
  revert h
  cases k <;> cases l <;> decide

/-- A kind without fields looks like itself only. -/
theorem Kind.eq_iff_of_shown_eq {k l m : Kind} (h : k.shown = l.shown)
    (hm : m.owner? = none) : k = m ↔ l = m := by
  revert h hm
  cases k <;> cases l <;> cases m <;> decide

/-- What a row tells of a field: its name, the name that its type refers
to, and its description on one line. -/
def Field.told (field : Field) : String × Option String × String :=
  (field.name, field.type.target,
    Text.singleLine (field.description.getD ""))

/-- What a row tells of an enum value. -/
def EnumValue.told (value : EnumValue) : String × String :=
  (value.name, Text.singleLine (value.description.getD ""))

/-- What a block tells of a type's description: nothing if it is blank,
every character for a scalar, and one line for the other kinds. -/
def TypeDef.toldDescription (type : TypeDef) : Option String :=
  (Page.readable type.description).map fun description =>
    if type.kind = .scalar then description
    else Text.singleLine description

/-- Two types agree on what a block tells. -/
structure ToldAlike (t u : TypeDef) : Prop where
  name : t.name = u.name
  kind : t.kind.shown = u.kind.shown
  description : t.toldDescription = u.toldDescription
  fields : (t.fields.map Field.told).Perm (u.fields.map Field.told)
  values : t.values.map EnumValue.told = u.values.map EnumValue.told
  members : t.members = u.members

namespace Page

variable {types others : List TypeDef} {base : PageBase}
  {descriptions : Bool} {t u : TypeDef}

-- =============================================================== headers

/-- The description in a header. A scalar's stands in its body. -/
def headline (type : TypeDef) : Option String :=
  if type.kind = .scalar then none else type.toldDescription

/-- The description in a header has no line breaks. -/
theorem not_mem_headline {c : Char} (hc : c = '\r' ∨ c = '\n')
    {type : TypeDef} {line : String} (h : headline type = some line) :
    c ∉ line.toList := by
  unfold headline at h
  split at h
  · cases h
  · rename_i hscalar
    obtain ⟨description, -, rfl⟩ := Option.map_eq_some_iff.mp h
    rw [if_neg hscalar]
    exact Text.not_mem_singleLine hc description

/-- A header is the name in bold and perhaps a description. -/
theorem header_eq (type : TypeDef) :
    header type = "**" ++ type.name ++ "**"
      ++ match headline type with
         | some line => ": *" ++ line ++ "*"
         | none => "" := by
  obtain ⟨name, description, members⟩ := type
  rw [← String.toList_inj]
  cases hd : readable description <;> cases members <;>
    simp [header, headline, TypeDef.toldDescription, hd, TypeDef.kind,
      Body.kind]

theorem readable_eq_toldDescription {type : TypeDef}
    (h : type.kind = .scalar) :
    readable type.description = type.toldDescription := by
  simp [TypeDef.toldDescription, h]

/-- Types told alike have the same header. -/
theorem header_eq_of_toldAlike (h : ToldAlike t u) : header t = header u := by
  have hscalar := Kind.eq_iff_of_shown_eq h.kind (m := .scalar) rfl
  have hline : headline t = headline u := by
    unfold headline
    simp only [hscalar, h.description]
  rw [header_eq, header_eq, h.name, hline]

-- ================================================================= rows

/-- The row of a field, from what it tells. -/
def toldRow (types : List TypeDef) (base : PageBase) (descriptions : Bool)
    (told : String × Option String × String) : String :=
  "| " ++ (Table.indent ++ "`" ++ told.1 ++ ":` "
      ++ (linkTo types base (told.2.1.getD "")).markdown)
    ++ if descriptions then
         " | " ++ String.ofList (Text.escapePipes told.2.2.toList) ++ " |\n"
       else " |\n"

/-- Rows take nothing from fields but what they tell. -/
theorem map_fieldRow (fields : List Field) :
    fields.map (Table.fieldRow types base descriptions)
      = (fields.map Field.told).map (toldRow types base descriptions) := by
  rw [List.map_map]
  rfl

/-- The row of an enum value, from what it tells. -/
def toldValueRow (descriptions : Bool) (told : String × String) : String :=
  "| " ++ (Table.indent ++ "`" ++ told.1 ++ "`")
    ++ if descriptions then
         " | " ++ String.ofList (Text.escapePipes told.2.toList) ++ " |\n"
       else " |\n"

theorem map_valueRow (values : List EnumValue) :
    values.map (Table.valueRow descriptions)
      = (values.map EnumValue.told).map (toldValueRow descriptions) := by
  rw [List.map_map]
  rfl

/-- Tables of fields that tell the same are the same table, if both
schemas link the same of the names in them. -/
theorem ofFields_eq_of_told {owner : Table.Owner} {name : String}
    {fs gs : List Field}
    (h : (fs.map Field.told).Perm (gs.map Field.told))
    (hname : NamedOnce types name ↔ NamedOnce others name)
    (hlinks : ∀ f ∈ fs, NamedOnce types (Table.shownType f)
      ↔ NamedOnce others (Table.shownType f)) :
    Table.ofFields types base descriptions owner name fs
      = Table.ofFields others base descriptions owner name gs := by
  have hrow : ∀ f ∈ fs, Table.fieldRow types base descriptions f
      = Table.fieldRow others base descriptions f := by
    intro f hf
    unfold Table.fieldRow
    rw [linkTo_congr (hlinks f hf)]
  have hrows : (fs.map (Table.fieldRow types base descriptions)).Perm
      (gs.map (Table.fieldRow others base descriptions)) := by
    rw [List.map_congr_left hrow, map_fieldRow, map_fieldRow]
    exact h.map _
  unfold Table.ofFields
  rw [linkTo_congr hname, Text.sorted_congr hrows]

/-- The rows of enums that tell the same values are the same. -/
theorem ofValues_eq_of_told {name : String} {vs ws : List EnumValue}
    (h : vs.map EnumValue.told = ws.map EnumValue.told) :
    Table.ofValues descriptions name vs
      = Table.ofValues descriptions name ws := by
  unfold Table.ofValues Table.valueRows
  rw [map_valueRow, map_valueRow, h]

-- ================================================================ blocks

/-- Types told alike have the same block, whatever a page shows, if the
schemas they stand in link the same of the names in it. -/
theorem block_eq_of_toldAlike {options : PageOptions} (h : ToldAlike t u)
    (hname : NamedOnce types t.name ↔ NamedOnce others t.name)
    (hlinks : ∀ f ∈ t.fields, NamedOnce types (Table.shownType f)
      ↔ NamedOnce others (Table.shownType f)) :
    block types base options t = block others base options u := by
  have hbody : body types base options.descriptions t
      = body others base options.descriptions u := by
    rcases t.kind.layout with ⟨owner, ho⟩ | hk | hk | hk
    · rw [body_of_owner ho, body_of_owner (Kind.owner?_congr h.kind ▸ ho),
        ofFields_eq_of_told h.fields hname hlinks, h.name]
    · rw [body_of_union hk, h.name, h.members,
        body_of_union ((Kind.eq_iff_of_shown_eq h.kind rfl).mp hk)]
    · rw [body_of_enum hk, ofValues_eq_of_told h.values, h.name,
        body_of_enum ((Kind.eq_iff_of_shown_eq h.kind rfl).mp hk)]
    · have hk' := (Kind.eq_iff_of_shown_eq h.kind (m := .scalar) rfl).mp hk
      rw [body_of_scalar hk, body_of_scalar hk']
      unfold scalarBody
      rw [readable_eq_toldDescription hk, readable_eq_toldDescription hk',
        h.name, h.description]
  unfold block
  rw [header_eq_of_toldAlike h, hbody]

end Page

end SchemaDocs
