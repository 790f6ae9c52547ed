/-
What a page is made of.

The page of a name is the blocks of its types, least first, with nothing
between them. Where a page is wanted in any case, a missing name gets the
empty text instead. Nothing tells the two apart but the text itself, and
the text is enough: it is empty for a missing name and for no other
(`empty_page_iff_missing`).

For this no block may be empty, whatever is left out of it. Each of them
ends in a line feed (`endsLine_block`), so that blocks put together do
not share lines, and each shows the name of its type in code
(`holds_name_block`).
-/
import SchemaDocs.Proofs.Page.Navigation

namespace SchemaDocs

-- ================================================================ ends

namespace Table

variable {descriptions : Bool} {first : String}

/-- A row is ended by a line feed. -/
theorem endsLine_row {description : Option String} :
    Text.EndsLine (row descriptions first description) := by
  have hend : Text.EndsLine " |\n" := by decide
  unfold row
  split
  · exact (hend.append_left _).append_left _
  · exact hend.append_left _

theorem endsLine_bareRow : Text.EndsLine (bareRow descriptions first) := by
  unfold bareRow
  split
  · exact Text.EndsLine.append_left (by decide) _
  · exact Text.EndsLine.append_left (by decide) _

theorem endsLine_delimiter : Text.EndsLine (delimiter descriptions) := by
  cases descriptions <;> decide

end Table

namespace Page

variable {types : List TypeDef} {base : PageBase} {options : PageOptions}
  {descriptions : Bool} {type : TypeDef} {name page : String}

/-- Whatever the kind, the last line below the header is ended. -/
theorem endsLine_body : Text.EndsLine (body types base descriptions type) := by
  have hfeed : Text.EndsLine "\n" := by decide
  rcases type.kind.layout with ⟨owner, howner⟩ | hunion | henum | hscalar
  · rw [body_of_owner howner]
    exact Table.endsLine_bareRow.append_left _
  · rw [body_of_union hunion]
    exact hfeed.append_left _
  · rw [body_of_enum henum]
    exact (Table.endsLine_bareRow.append_left _).append_left _
  · rw [body_of_scalar hscalar]
    exact hfeed.append_left _

/-- Blocks end in line feeds. -/
theorem endsLine_block :
    Text.EndsLine (block types base options type) := by
  unfold block
  split
  · exact endsLine_body.append_left _
  · exact endsLine_body

-- =============================================================== names

/-- A name is shown in code, linked or not. -/
theorem holds_name_markdown :
    Holds (linkTo types base name).markdown (plainText name) := by
  by_cases hone : NamedOnce types name
  · rw [markdown_of_namedOnce hone]
    refine holds_of_eq_append "["
      ("](" ++ base.text ++ "/?page=printType:" ++ name ++ ")") ?_
    simp [linkedText, plainText, ← String.toList_inj]
  · rw [markdown_of_not_namedOnce hone]
    exact Holds.refl _

/-- A table shows the name in its headings. -/
theorem holds_opening {keyword shown piece : String}
    (h : Holds shown piece) :
    Holds (Table.opening descriptions keyword shown) piece := by
  unfold Table.opening Table.bareRow
  exact (((h.append_left _).append_right _).append_left _).append_right _

/-- The name of the type stands in backticks below the header. -/
theorem holds_name_body :
    Holds (body types base descriptions type) (plainText type.name) := by
  rcases type.kind.layout with ⟨owner, howner⟩ | hunion | henum | hscalar
  · rw [body_of_owner howner]
    exact (((holds_opening holds_name_markdown).append_right
      _).append_right _).append_right _
  · rw [body_of_union hunion]
    refine ((holds_of_eq_append "**`union`** " "" ?_).append_right
      _).append_right _
    simp [plainText, ← String.toList_inj]
  · rw [body_of_enum henum]
    exact (holds_opening (Holds.refl _)).append_right _
  · rw [body_of_scalar hscalar]
    exact ((Holds.refl _).append_right _).append_right _

/-- Blocks show the names of their types in code. -/
theorem holds_name_block :
    Holds (block types base options type) (plainText type.name) :=
  holds_of_holds_body holds_name_body

-- =============================================================== blocks

/-- The page is made of the blocks of the types of that name. -/
structure MadeOf (types : List TypeDef) (base : PageBase)
    (options : PageOptions) (name page : String) (blocks : List String) :
    Prop where
  /-- Each type of the name has one block. -/
  perm : blocks.Perm ((typesNamed types name).map (block types base options))
  /-- The blocks stand in code point order. -/
  ordered : blocks.Pairwise (· ≤ ·)
  joined : page = String.join blocks
  /-- No two blocks share a line. -/
  lines : Text.lines page.toList
    = blocks.flatMap fun block => Text.lines block.toList
  nonempty : ∀ block ∈ blocks, block ≠ ""
  ended : ∀ block ∈ blocks, block.toList.getLast? = some '\n'
  /-- Each block shows the name in code. -/
  named : ∀ block ∈ blocks, Holds block ("`" ++ name ++ "`")

/-- What there is of a page is made of blocks. -/
theorem exists_madeOf_of_render
    (h : render types base options name = .ok page) :
    ∃ blocks, MadeOf types base options name page blocks := by
  unfold render at h
  split at h
  · cases h
  obtain rfl := Except.ok.inj h
  have hperm := Text.sorted_perm
    ((typesNamed types name).map (block types base options))
  have hblock : ∀ text ∈ Text.sorted
        ((typesNamed types name).map (block types base options)),
      Text.EndsLine text ∧ Holds text (plainText name) := by
    intro text htext
    obtain ⟨type, htype, rfl⟩ := List.mem_map.mp (hperm.mem_iff.mp htext)
    rw [← name_of_mem_typesNamed htype]
    exact ⟨endsLine_block, holds_name_block⟩
  exact ⟨_, hperm, Text.pairwise_sorted _, rfl,
    Text.lines_join_of_endsLine fun text htext => (hblock text htext).1,
    fun text htext => (hblock text htext).1.ne_empty,
    fun text htext => (hblock text htext).1,
    fun text htext => (hblock text htext).2⟩

-- ================================================================ pages

theorem typesNamed_eq_nil_iff :
    typesNamed types name = [] ↔ ∀ type ∈ types, type.name ≠ name := by
  simp [typesNamed]

/-- Pages are missing for want of a type, and what is missing is the name
that was asked for. -/
theorem render_eq_error_iff {missing : Missing} :
    render types base options name = .error missing
      ↔ (∀ type ∈ types, type.name ≠ name) ∧ missing = ⟨name⟩ := by
  rw [← typesNamed_eq_nil_iff]
  unfold render
  cases typesNamed types name with
  | nil => simp [eq_comm]
  | cons type rest => simp

/-- The names that have pages are those of the types. -/
theorem exists_render_iff (types : List TypeDef) (base : PageBase)
    (options : PageOptions) (name : String) :
    (∃ page, render types base options name = .ok page)
      ↔ name ∈ types.map TypeDef.name := by
  rw [← List.count_pos_iff, ← length_typesNamed]
  unfold render
  cases typesNamed types name with
  | nil => simp
  | cons type rest => simp

/-- A page shows its name, so it shows something. -/
theorem ne_empty_of_render (h : render types base options name = .ok page) :
    page ≠ "" := by
  have hname : name ∈ types.map TypeDef.name :=
    (exists_render_iff types base options name).mp ⟨page, h⟩
  obtain ⟨type, hmem, rfl⟩ := List.mem_map.mp hname
  have htype : type ∈ typesNamed types type.name :=
    List.mem_filter.mpr ⟨hmem, beq_self_eq_true type.name⟩
  have hcode : Holds page (plainText type.name) :=
    (holds_block h htype).trans holds_name_block
  rintro rfl
  exact absurd (List.infix_nil.mp hcode) (by simp [plainText])

/-- An empty page is the page of a missing name, and of no other. It is
empty exactly if no type has the name, and then the name that was asked
for is missing. Otherwise it is made of the blocks of the types of that
name, none of which is empty, runs into another or lacks the name. -/
theorem empty_page_iff_missing (types : List TypeDef) (base : PageBase)
    (options : PageOptions) (name : String) :
    (renderOrEmpty types base options name = ""
        ↔ ∀ type ∈ types, type.name ≠ name)
      ∧ (∀ missing, render types base options name = .error missing
          ↔ (∀ type ∈ types, type.name ≠ name) ∧ missing = ⟨name⟩)
      ∧ ((∃ type ∈ types, type.name = name) → ∃ page blocks,
          render types base options name = .ok page
            ∧ renderOrEmpty types base options name = page
            ∧ MadeOf types base options name page blocks) := by
  refine ⟨?_, fun missing => render_eq_error_iff, ?_⟩
  · unfold renderOrEmpty
    cases hpage : render types base options name with
    | ok page =>
        have hfound : ¬ ∀ type ∈ types, type.name ≠ name := by
          intro hnone
          rw [render_eq_error_iff.mpr ⟨hnone, rfl⟩] at hpage
          cases hpage
        exact iff_of_false (ne_empty_of_render hpage) hfound
    | error missing =>
        exact iff_of_true rfl (render_eq_error_iff.mp hpage).1
  · rintro ⟨type, htype, rfl⟩
    obtain ⟨page, hpage⟩ := (exists_render_iff types base options _).mpr
      (List.mem_map_of_mem htype)
    obtain ⟨blocks, hblocks⟩ := exists_madeOf_of_render hpage
    refine ⟨page, blocks, hpage, ?_, hblocks⟩
    unfold renderOrEmpty
    rw [hpage]

/-- Types of one name with nothing in them. -/
def voids : List TypeDef :=
  [⟨"Void", some " \n", .scalar⟩, ⟨"Void", some "", .union []⟩,
    ⟨"Void", none, .enum []⟩, ⟨"Void", none, .object []⟩]

/-- Each of them has its block, and another name has none. -/
theorem empty_page_iff_missing_voids :
    (∃ type ∈ voids, type.name = "Void")
      ∧ (∃ page blocks, render voids .standard ⟨false, false⟩ "Void" = .ok page
          ∧ MadeOf voids .standard ⟨false, false⟩ "Void" page blocks
          ∧ blocks.length = 4)
      ∧ renderOrEmpty voids .standard {} "Ghost" = ""
      ∧ render voids .standard {} "Ghost" = .error ⟨"Ghost"⟩ := by
  have hvoid : ∃ type ∈ voids, type.name = "Void" := by decide
  have hghost : ∀ type ∈ voids, type.name ≠ "Ghost" := by decide
  obtain ⟨-, -, hmade⟩ :=
    empty_page_iff_missing voids .standard ⟨false, false⟩ "Void"
  obtain ⟨page, blocks, hpage, -, hblocks⟩ := hmade hvoid
  obtain ⟨hempty, herror, -⟩ :=
    empty_page_iff_missing voids .standard {} "Ghost"
  have hlength : blocks.length = 4 := hblocks.perm.length_eq.trans rfl
  exact ⟨hvoid, ⟨page, blocks, hpage, hblocks, hlength⟩, hempty.mpr hghost,
    (herror _).mpr ⟨hghost, rfl⟩⟩

end Page

end SchemaDocs
