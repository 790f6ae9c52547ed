/-
Hidden descriptions leave no trace.

A page without its column of descriptions does not show what is said of
fields and enum values, and without its headers it does not show what is
said of types either, scalars apart, whose descriptions stand in their
bodies. But descriptions are part of rows and headers, and rows and
blocks are sorted by their texts, so they could still show in the order
of what is left. They do not: two schemas that are the same once the
hidden descriptions are erased have the same pages
(`hidden_leaves_no_trace`), blocks of one name included.

# How the proof goes

A schema is compared with itself after erasing. Erasing keeps names, and
so it keeps what is linked and which types a name has; it keeps the body
of each type, for a body that hides descriptions does not look at them
(`body_undescribed`); and a page is made of nothing else (`render_map`).
Two schemas with the same erasure then meet in it.
-/
import SchemaDocs.Proofs.Page.Locality

namespace SchemaDocs

-- ============================================================== erasing

/-- The field with nothing said of it. -/
def Field.undescribed (field : Field) : Field :=
  { field with description := none }

/-- The enum value with nothing said of it. -/
def EnumValue.undescribed (value : EnumValue) : EnumValue :=
  { value with description := none }

/-- The body with nothing said of its fields and values. -/
def Body.undescribed : Body → Body
  | .object fields => .object (fields.map Field.undescribed)
  | .inputObject fields => .inputObject (fields.map Field.undescribed)
  | .interface fields => .interface (fields.map Field.undescribed)
  | .union members => .union members
  | .enum values => .enum (values.map EnumValue.undescribed)
  | .scalar => .scalar

/-- What is said of members has no part in the kind. -/
theorem Body.kind_undescribed (body : Body) :
    body.undescribed.kind = body.kind := by
  cases body <;> rfl

/-- The type with nothing said of its fields and values. -/
def TypeDef.eraseMemberDescriptions (type : TypeDef) : TypeDef :=
  { type with body := type.body.undescribed }

/-- The type with nothing said of it either, unless it is a scalar. -/
def TypeDef.eraseDescriptions (type : TypeDef) : TypeDef :=
  { type.eraseMemberDescriptions with
    description := if type.kind = .scalar then type.description else none }

-- ================================================================ pages

/-- Types that are changed without a change of names are found under the
same names. -/
theorem typesNamed_map (change : TypeDef → TypeDef)
    (hname : ∀ type, (change type).name = type.name) (types : List TypeDef)
    (name : String) :
    typesNamed (types.map change) name
      = (typesNamed types name).map change := by
  have hsame : ((fun type : TypeDef => type.name == name) ∘ change)
      = fun type => type.name == name := by
    funext type
    simp [hname]
  unfold typesNamed
  rw [List.filter_map, hsame]

namespace Page

variable {types others : List TypeDef} {base : PageBase}
  {options : PageOptions}

/-- A change that keeps names keeps what is unique, and so what is
linked. -/
theorem namedOnce_map (change : TypeDef → TypeDef)
    (hname : ∀ type, (change type).name = type.name) (name : String) :
    NamedOnce (types.map change) name ↔ NamedOnce types name :=
  namedOnce_congr (by rw [typesNamed_map change hname, List.length_map])

/-- A change that keeps names and blocks keeps every page. -/
theorem render_map (change : TypeDef → TypeDef)
    (hname : ∀ type, (change type).name = type.name)
    (hblock : ∀ type, block (types.map change) base options (change type)
      = block types base options type) (name : String) :
    render (types.map change) base options name
      = render types base options name := by
  refine render_eq_of_blocks (.of_eq ?_)
  rw [typesNamed_map change hname, List.map_map]
  exact List.map_congr_left fun type _ => hblock type

-- =============================================================== bodies

/-- A row that hides its description. -/
theorem row_hidden (first : String) (description : Option String) :
    Table.row false first description = "| " ++ first ++ " |\n" := by
  simp [Table.row]

/-- A table of fields that hides descriptions does not look at them. -/
theorem ofFields_undescribed {owner : Table.Owner} {name : String}
    (hlinks : ∀ name, NamedOnce others name ↔ NamedOnce types name)
    (fields : List Field) :
    Table.ofFields others base false owner name (fields.map Field.undescribed)
      = Table.ofFields types base false owner name fields := by
  have hrow : ∀ field, Table.fieldRow others base false field.undescribed
      = Table.fieldRow types base false field := by
    intro field
    have hlink : linkTo others base (Table.shownType field)
        = linkTo types base (Table.shownType field) :=
      linkTo_congr (hlinks _)
    unfold Table.fieldRow
    rw [row_hidden, row_hidden, ← hlink]
    rfl
  have hrows : (fields.map Field.undescribed).map
        (Table.fieldRow others base false)
      = fields.map (Table.fieldRow types base false) := by
    rw [List.map_map]
    exact List.map_congr_left fun field _ => hrow field
  unfold Table.ofFields
  rw [linkTo_congr (hlinks name), hrows]

/-- Nor does a table of values. -/
theorem ofValues_undescribed (name : String) (values : List EnumValue) :
    Table.ofValues false name (values.map EnumValue.undescribed)
      = Table.ofValues false name values := by
  have hrow : ∀ value : EnumValue, Table.valueRow false value.undescribed
      = Table.valueRow false value := by
    intro value
    unfold Table.valueRow
    rw [row_hidden, row_hidden]
    rfl
  have hrows : (values.map EnumValue.undescribed).map (Table.valueRow false)
      = values.map (Table.valueRow false) := by
    rw [List.map_map]
    exact List.map_congr_left fun value _ => hrow value
  unfold Table.ofValues Table.valueRows
  rw [hrows]

/-- A body that hides descriptions is that of a type of which nothing is
said, but for what a scalar says of itself. -/
theorem body_undescribed
    (hlinks : ∀ name, NamedOnce others name ↔ NamedOnce types name)
    (type : TypeDef) {description : Option String}
    (hscalar : type.kind = .scalar → description = type.description) :
    body others base false ⟨type.name, description, type.body.undescribed⟩
      = body types base false type := by
  obtain ⟨name, said, members⟩ := type
  cases members with
  | object fields => exact ofFields_undescribed hlinks fields
  | inputObject fields => exact ofFields_undescribed hlinks fields
  | interface fields => exact ofFields_undescribed hlinks fields
  | union members => rfl
  | enum values => exact ofValues_undescribed name values
  | scalar =>
      rw [hscalar rfl]
      rfl

-- =============================================================== blocks

/-- A header says nothing of members. -/
theorem header_eraseMemberDescriptions (type : TypeDef) :
    header type.eraseMemberDescriptions = header type := by
  have hkind : type.eraseMemberDescriptions.kind = type.kind :=
    type.body.kind_undescribed
  have hline : headline type.eraseMemberDescriptions = headline type := by
    unfold headline TypeDef.toldDescription
    rw [hkind]
    rfl
  rw [header_eq, header_eq, hline]
  rfl

theorem block_eraseMemberDescriptions (shown : Bool) (type : TypeDef) :
    block (types.map TypeDef.eraseMemberDescriptions) base ⟨shown, false⟩
        type.eraseMemberDescriptions
      = block types base ⟨shown, false⟩ type := by
  have hbody : body (types.map TypeDef.eraseMemberDescriptions) base false
        type.eraseMemberDescriptions
      = body types base false type :=
    body_undescribed
      (namedOnce_map TypeDef.eraseMemberDescriptions fun _ => rfl)
      type fun _ => rfl
  unfold block
  rw [header_eraseMemberDescriptions]
  simp only [hbody]

/-- Without its header a block says nothing of its type either, unless
that is a scalar. -/
theorem block_eraseDescriptions (type : TypeDef) :
    block (types.map TypeDef.eraseDescriptions) base ⟨false, false⟩
        type.eraseDescriptions
      = block types base ⟨false, false⟩ type :=
  body_undescribed
    (namedOnce_map TypeDef.eraseDescriptions fun _ => rfl)
    type fun hscalar => if_pos hscalar

-- ============================================================== schemas

/-- Hidden descriptions leave no trace. Two schemas that are the same once
what is said of fields and enum values is erased have the same pages
without the column of descriptions, with and without headers. Without
headers it is enough that they are the same once what is said of types is
erased as well, scalars apart. -/
theorem hidden_leaves_no_trace (types others : List TypeDef)
    (base : PageBase) (name : String) :
    (types.map TypeDef.eraseMemberDescriptions
        = others.map TypeDef.eraseMemberDescriptions →
      ∀ shown, render types base ⟨shown, false⟩ name
        = render others base ⟨shown, false⟩ name)
    ∧ (types.map TypeDef.eraseDescriptions
        = others.map TypeDef.eraseDescriptions →
      render types base ⟨false, false⟩ name
        = render others base ⟨false, false⟩ name) := by
  constructor
  · intro h shown
    have herase : ∀ schema : List TypeDef,
        render (schema.map TypeDef.eraseMemberDescriptions) base
            ⟨shown, false⟩ name
          = render schema base ⟨shown, false⟩ name := by
      intro schema
      exact render_map TypeDef.eraseMemberDescriptions (fun _ => rfl)
        (block_eraseMemberDescriptions shown) name
    rw [← herase types, h, herase others]
  · intro h
    have herase : ∀ schema : List TypeDef,
        render (schema.map TypeDef.eraseDescriptions) base
            ⟨false, false⟩ name
          = render schema base ⟨false, false⟩ name := by
      intro schema
      exact render_map TypeDef.eraseDescriptions (fun _ => rfl)
        block_eraseDescriptions name
    rw [← herase types, h, herase others]

/-- Bells of one name, with a tone that says what it is. -/
def bells : List TypeDef :=
  [⟨"Bell", some "rung last", .object [⟨"tone", some "low", .named "Tone"⟩,
      ⟨"tone", some "high | shrill", .list (.named "Tone")⟩]⟩,
    ⟨"Bell", some "rung first", .interface [⟨"tone", none, .named "Tone"⟩]⟩,
    ⟨"Bell", none, .enum [⟨"CHURCH", some "up\nhigh"⟩, ⟨"DOOR", none⟩]⟩,
    ⟨"Tone", some "in hertz", .scalar⟩]

/-- The same bells with other words for all but the tone. -/
def bellsAnew : List TypeDef :=
  [⟨"Bell", none, .object [⟨"tone", some "z", .named "Tone"⟩,
      ⟨"tone", none, .list (.named "Tone")⟩]⟩,
    ⟨"Bell", some "a", .interface [⟨"tone", some "b", .named "Tone"⟩]⟩,
    ⟨"Bell", some "c", .enum [⟨"CHURCH", none⟩, ⟨"DOOR", some "down"⟩]⟩,
    ⟨"Tone", some "in hertz", .scalar⟩]

/-- Without their descriptions the bells are told by the same page. -/
theorem hidden_leaves_no_trace_bells :
    bells.map TypeDef.eraseDescriptions
        = bellsAnew.map TypeDef.eraseDescriptions
      ∧ render bells .standard ⟨false, false⟩ "Bell"
        = render bellsAnew .standard ⟨false, false⟩ "Bell"
      ∧ bells.map TypeDef.eraseMemberDescriptions
        = (bells.map TypeDef.eraseMemberDescriptions).map
            TypeDef.eraseMemberDescriptions
      ∧ render bells .standard ⟨true, false⟩ "Bell"
        = render (bells.map TypeDef.eraseMemberDescriptions) .standard
            ⟨true, false⟩ "Bell" :=
  ⟨rfl, (hidden_leaves_no_trace bells bellsAnew .standard "Bell").2 rfl, rfl,
    (hidden_leaves_no_trace bells
      (bells.map TypeDef.eraseMemberDescriptions) .standard "Bell").1 rfl
      true⟩

end Page

end SchemaDocs
