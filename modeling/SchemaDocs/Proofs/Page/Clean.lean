/-
Pages have no escape sequences of their own.

A terminal takes colours and worse from escape sequences, and all of them
start with one character. A text without this character is clean. What a
page adds to the texts of a schema is clean, and putting texts together,
sorting them and folding their lines brings in nothing; so a page about
clean types is clean (`clean_of_render`).
-/
import Mathlib.Data.List.Infix
import SchemaDocs.Proofs.Page.Layout
import SchemaDocs.Proofs.Text.Within

namespace SchemaDocs

-- ================================================================ texts

/-- A text without escape sequences. -/
def Clean (text : String) : Prop := '\x1b' ∉ text.toList

instance (text : String) : Decidable (Clean text) :=
  inferInstanceAs (Decidable (_ ∉ _))

/-- A text is clean if both of its parts are. -/
theorem clean_append {a b : String} : Clean (a ++ b) ↔ Clean a ∧ Clean b := by
  unfold Clean
  rw [String.toList_append, List.mem_append, not_or]

/-- Clean pieces make up a clean text. -/
theorem clean_join {pieces : List String} (h : ∀ piece ∈ pieces, Clean piece) :
    Clean (String.join pieces) := by
  unfold Clean
  rw [String.toList_join, List.mem_flatMap]
  rintro ⟨piece, hpiece, hmem⟩
  exact h piece hpiece hmem

/-- So do they with something clean between them. -/
theorem clean_intercalate {separator : String} (hseparator : Clean separator)
    {pieces : List String} (h : ∀ piece ∈ pieces, Clean piece) :
    Clean (separator.intercalate pieces) :=
  not_mem_intercalate hseparator h

theorem clean_sorted {pieces : List String}
    (h : ∀ piece ∈ pieces, Clean piece) :
    ∀ piece ∈ Text.sorted pieces, Clean piece := fun piece hpiece =>
  h piece ((Text.sorted_perm pieces).mem_iff.mp hpiece)

/-- Folding lines brings in blanks only. -/
theorem clean_singleLine {text : String} (h : Clean text) :
    Clean (Text.singleLine text) := by
  intro hmem
  have hword : ['\x1b'] <:+: (Text.singleLine text).toList :=
    (List.singleton_infix_iff _ _).mpr hmem
  exact h ((List.singleton_infix_iff _ _).mp
    (Text.infix_of_infix_singleLine (by decide) hword))

/-- Nor does escaping bring in more than backslashes. -/
theorem clean_cell {description : Option String}
    (h : ∀ text ∈ description, Clean text) :
    Clean (Text.cell description) := by
  have htext : Clean (description.getD "") := by
    cases description with
    | none => decide
    | some text => exact h text rfl
  intro hmem
  have hword : ['\x1b'] <:+: (Text.cell description).toList :=
    (List.singleton_infix_iff _ _).mpr hmem
  exact htext ((List.singleton_infix_iff _ _).mp
    (Text.infix_of_infix_cell (by decide) (by decide) hword))

-- ================================================================ types

/-- A field whose texts are clean, the name of its type among them. -/
structure Field.Clean (field : Field) : Prop where
  name : SchemaDocs.Clean field.name
  description : ∀ text ∈ field.description, SchemaDocs.Clean text
  type : SchemaDocs.Clean (Table.shownType field)

structure EnumValue.Clean (value : EnumValue) : Prop where
  name : SchemaDocs.Clean value.name
  description : ∀ text ∈ value.description, SchemaDocs.Clean text

/-- A type whose texts are clean, its members' texts included. -/
structure TypeDef.Clean (type : TypeDef) : Prop where
  name : SchemaDocs.Clean type.name
  description : ∀ text ∈ type.description, SchemaDocs.Clean text
  fields : ∀ field ∈ type.fields, field.Clean
  members : ∀ member ∈ type.members, SchemaDocs.Clean member
  values : ∀ value ∈ type.values, value.Clean

-- =============================================================== tables

namespace Table

variable {types : List TypeDef} {base : PageBase} {descriptions : Bool}

/-- Backticks around a name bring in nothing. -/
theorem clean_code {name : String} (hname : Clean name) :
    Clean ("`" ++ name ++ "`") := by
  simp only [clean_append]
  exact ⟨⟨by decide, hname⟩, by decide⟩

/-- What is shown of a name is the name and the address of its page. -/
theorem clean_link (hbase : Clean base.text) {name : String}
    (hname : Clean name) : Clean (linkTo types base name).markdown :=
  not_mem_markdown (by decide) hbase hname

/-- A row is clean when its cells are. -/
theorem clean_row {first : String} {description : Option String}
    (hfirst : Clean first) (hdescription : ∀ text ∈ description, Clean text) :
    Clean (row descriptions first description) := by
  have hcell := clean_cell hdescription
  unfold row
  rw [clean_append, clean_append]
  refine ⟨⟨by decide, hfirst⟩, ?_⟩
  split
  · rw [clean_append, clean_append]
    exact ⟨⟨by decide, hcell⟩, by decide⟩
  · decide

/-- So is a row with a label alone. -/
theorem clean_bareRow {first : String} (hfirst : Clean first) :
    Clean (bareRow descriptions first) := by
  unfold bareRow
  rw [clean_append, clean_append]
  refine ⟨⟨by decide, hfirst⟩, ?_⟩
  split <;> decide

theorem clean_delimiter : Clean (delimiter descriptions) := by
  cases descriptions <;> decide

/-- A table opens with its headings, and with the type they name. -/
theorem clean_opening {keyword name : String} (hkeyword : Clean keyword)
    (hname : Clean name) : Clean (opening descriptions keyword name) := by
  refine clean_bareRow ?_
  simp only [clean_append]
  exact ⟨⟨⟨⟨by decide, hkeyword⟩, by decide⟩, hname⟩, by decide⟩

/-- The row of a field is clean when the field is, and the base. -/
theorem clean_fieldRow (hbase : Clean base.text) {field : Field}
    (h : field.Clean) : Clean (fieldRow types base descriptions field) := by
  refine clean_row ?_ h.description
  simp only [clean_append]
  exact ⟨⟨⟨⟨by decide, by decide⟩, h.name⟩, by decide⟩,
    clean_link hbase h.type⟩

/-- A table of clean fields is clean, in whatever order they stand. -/
theorem clean_ofFields (hbase : Clean base.text) {owner : Owner}
    {name : String} (hname : Clean name) {fields : List Field}
    (hfields : ∀ field ∈ fields, field.Clean) :
    Clean (ofFields types base descriptions owner name fields) := by
  have hkeyword : Clean owner.keyword := by cases owner <;> decide
  have hrows : ∀ row ∈ fields.map (fieldRow types base descriptions),
      Clean row := List.forall_mem_map.mpr fun field hfield =>
    clean_fieldRow hbase (hfields field hfield)
  unfold ofFields
  simp only [clean_append]
  exact ⟨⟨⟨clean_opening hkeyword (clean_link hbase hname), clean_delimiter⟩,
    clean_join (clean_sorted hrows)⟩, clean_bareRow (by decide)⟩

theorem clean_valueRow {value : EnumValue} (h : value.Clean) :
    Clean (valueRow descriptions value) := by
  refine clean_row ?_ h.description
  simp only [clean_append]
  exact ⟨⟨⟨by decide, by decide⟩, h.name⟩, by decide⟩

/-- A table of clean enum values is clean. -/
theorem clean_ofValues {name : String} (hname : Clean name)
    {values : List EnumValue} (hvalues : ∀ value ∈ values, value.Clean) :
    Clean (ofValues descriptions name values) := by
  have hrows : ∀ row ∈ values.map (valueRow descriptions), Clean row :=
    List.forall_mem_map.mpr fun value hvalue =>
      clean_valueRow (hvalues value hvalue)
  unfold ofValues valueRows
  simp only [clean_append]
  exact ⟨clean_opening (by decide) (clean_code hname),
    ⟨clean_delimiter, clean_join hrows⟩, clean_bareRow (by decide)⟩

end Table

-- ================================================================ pages

namespace Page

variable {types : List TypeDef} {base : PageBase} {options : PageOptions}
  {type : TypeDef}

theorem clean_readable (h : ∀ text ∈ type.description, Clean text) :
    ∀ text ∈ readable type.description, Clean text := fun text htext =>
  h text (Option.mem_filter_iff.mp htext).1

/-- The header of a clean type is clean. -/
theorem clean_header (h : type.Clean) : Clean (header type) := by
  have hdescription := clean_readable h.description
  have hname : Clean ("**" ++ type.name ++ "**") := by
    simp only [clean_append]
    exact ⟨⟨by decide, h.name⟩, by decide⟩
  unfold header
  split
  · exact hname
  · exact hname
  · next description hreadable _ =>
    have hline := clean_singleLine (hdescription description hreadable)
    simp only [clean_append]
    exact ⟨⟨⟨⟨by decide, h.name⟩, by decide⟩, hline⟩, by decide⟩

/-- The list of the members of a union is clean when they are. -/
theorem clean_unionBody {name : String} (hname : Clean name)
    {members : List String} (hmembers : ∀ member ∈ members, Clean member) :
    Clean (unionBody name members) := by
  have hcodes : ∀ code ∈ members.map (fun member => "`" ++ member ++ "`"),
      Clean code := List.forall_mem_map.mpr fun member hmember =>
    Table.clean_code (hmembers member hmember)
  unfold unionBody
  simp only [clean_append]
  refine ⟨⟨⟨⟨by decide, hname⟩, by decide⟩, ?_⟩, by decide⟩
  split
  · decide
  · rw [clean_append]
    exact ⟨by decide, clean_intercalate (by decide) hcodes⟩

theorem clean_scalarBody (h : type.Clean) :
    Clean (scalarBody type.name type.description) := by
  unfold scalarBody
  simp only [clean_append]
  refine ⟨⟨⟨⟨by decide, h.name⟩, by decide⟩, ?_⟩, by decide⟩
  split
  · next description hreadable =>
    rw [clean_append]
    exact ⟨by decide, clean_readable h.description description hreadable⟩
  · decide

/-- Whatever kind a clean type is of, the table below its header is
clean. -/
theorem clean_body (hbase : Clean base.text) (h : type.Clean)
    (descriptions : Bool) : Clean (body types base descriptions type) := by
  rcases type.kind.layout with ⟨owner, howner⟩ | hunion | henum | hscalar
  · rw [body_of_owner howner]
    exact Table.clean_ofFields hbase h.name h.fields
  · rw [body_of_union hunion]
    exact clean_unionBody h.name h.members
  · rw [body_of_enum henum]
    exact Table.clean_ofValues h.name h.values
  · rw [body_of_scalar hscalar]
    exact clean_scalarBody h

/-- A clean type has a clean block. -/
theorem clean_block (hbase : Clean base.text) (h : type.Clean) :
    Clean (block types base options type) := by
  have hbody : Clean (body types base options.descriptions type) :=
    clean_body hbase h options.descriptions
  unfold block
  split
  · rw [clean_append, clean_append]
    exact ⟨⟨clean_header h, by decide⟩, hbody⟩
  · exact hbody

/-- A page about clean types is clean. -/
theorem clean_of_render (hbase : Clean base.text)
    (htypes : ∀ type ∈ types, type.Clean) {name page : String}
    (h : render types base options name = .ok page) : Clean page := by
  unfold render at h
  split at h
  · cases h
  · obtain rfl := Except.ok.inj h
    refine clean_join (clean_sorted (List.forall_mem_map.mpr ?_))
    intro type htype
    exact clean_block hbase (htypes type (List.mem_filter.mp htype).1)

end Page

end SchemaDocs
