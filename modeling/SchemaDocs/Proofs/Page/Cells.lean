/-
Links in tables.

Descriptions are escaped when they are put into a table, and names of the
schema language have nothing to escape. The address of the site has: it
is written into every link as it is, and what an address may hold is more
than a table bears. A pipe in its path is a pipe in every row with a link,
and a parenthesis without its other half moves the end of the link. So
links are read back from their rows exactly if the address of the site has
neither (`links_survive_iff`).

# How a row is read

The row is cut at its first two pipes that are not escaped. In the column
between them comes the name of the field, in code, and then the link: its
name in code within brackets, and its address within parentheses.
-/
import SchemaDocs.Proofs.Page.Address
import SchemaDocs.Proofs.Page.Layout
import SchemaDocs.Proofs.Page.Rows

namespace SchemaDocs

namespace Table

variable {types : List TypeDef} {base : PageBase} {descriptions : Bool}
  {field : Field} {name : String} {a : List Char} {c : Char}

/-- The names in the row of a field are names of the schema language. -/
structure NamedField (field : Field) : Prop where
  name : Sdl.isName field.name.toList = true
  type : ∀ target, field.type.target = some target →
    Sdl.isName target.toList = true

-- ============================================================== reading

/-- The code that was opened before the text, and what is behind it. -/
def readCode (text : List Char) : Option (String × List Char) :=
  match text.dropWhile (· ≠ '`') with
  | '`' :: rest => some (String.ofList (text.takeWhile (· ≠ '`')), rest)
  | _ => none

/-- The link that a text starts with, behind a blank. -/
def readShown : List Char → Option Link
  | ' ' :: '[' :: '`' :: text =>
      match readCode text with
      | some (name, ']' :: '(' :: target) =>
          (Text.address 0 target).map fun url =>
            .linked name (String.ofList url)
      | _ => none
  | ' ' :: '`' :: text => (readCode text).map fun code => .plain code.1
  | _ => none

/-- What the first column of the row of a field starts with. -/
def columnStart : String := " " ++ indent ++ "`"

/-- The link in the row of a field. It stands in the first column, behind
the name of the field. -/
def linkIn (row : List Char) : Option Link :=
  (readCode ((Text.column (row.drop 1)).drop columnStart.length)).bind
    fun code => readShown code.2

/-- Code ends at the first backtick. -/
theorem readCode_append (h : '`' ∉ a) (rest : List Char) :
    readCode (a ++ '`' :: rest) = some (String.ofList a, rest) := by
  have hcode : ∀ c ∈ a, decide (c ≠ '`') = true := by
    intro c hc
    rw [decide_eq_true_eq]
    rintro rfl
    exact h hc
  unfold readCode
  rw [List.takeWhile_append_of_pos hcode, List.dropWhile_append_of_pos hcode]
  simp

/-- A linked name is read with the address behind it, up to the parenthesis
that closes it. -/
theorem readShown_linked (h : '`' ∉ name.toList) (target : List Char) :
    readShown (" [`".toList ++ (name.toList ++ ("`](".toList ++ target)))
      = (Text.address 0 target).map fun url =>
          .linked name (String.ofList url) := by
  have hcode : readCode (name.toList ++ ("`](".toList ++ target))
      = some (name, ']' :: '(' :: target) := by
    have hname := readCode_append h (']' :: '(' :: target)
    rwa [String.ofList_toList] at hname
  have hstart : " [`".toList ++ (name.toList ++ ("`](".toList ++ target))
      = ' ' :: '[' :: '`' :: (name.toList ++ ("`](".toList ++ target)) := rfl
  rw [hstart, readShown, hcode]
  rfl

/-- A name without a link is read as it is shown. -/
theorem readShown_plain (h : '`' ∉ name.toList) (rest : List Char) :
    readShown (" `".toList ++ (name.toList ++ '`' :: rest))
      = some (.plain name) := by
  have hstart : " `".toList ++ (name.toList ++ '`' :: rest)
      = ' ' :: '`' :: (name.toList ++ '`' :: rest) := rfl
  rw [hstart, readShown, readCode_append h, String.ofList_toList]
  rfl

/-- Behind the name of the field comes the rest of the first column. -/
theorem linkIn_append (h : Sdl.IsWord name.toList) (rest : List Char) :
    linkIn (rowStart.toList ++ (name.toList ++ (":`".toList ++ rest)))
      = readShown (Text.column rest) := by
  have hrow :
      (rowStart.toList ++ (name.toList ++ (":`".toList ++ rest))).drop 1
      = (columnStart.toList ++ (name.toList ++ ":`".toList)) ++ rest := by
    simp [rowStart, columnStart]
  have hcolumn : Text.column
        ((columnStart.toList ++ (name.toList ++ ":`".toList)) ++ rest)
      = columnStart.toList
        ++ ((name.toList ++ [':']) ++ '`' :: Text.column rest) := by
    rw [Text.column_append]
    · simp
    · simp [columnStart, indent, h.not_mem (c := '\\') rfl]
    · simp [columnStart, indent, h.not_mem (c := '|') rfl]
  have htick : '`' ∉ name.toList ++ [':'] := by
    simp [h.not_mem (c := '`') rfl]
  rw [linkIn, hrow, hcolumn, ← String.length_toList, List.drop_left,
    readCode_append htick]
  rfl

-- ================================================================ rows

/-- What stands in a row behind the link. -/
def rowEnd (descriptions : Bool) (field : Field) : List Char :=
  if descriptions then
    " | ".toList ++ (Text.cell field.description).toList ++ " |".toList
  else " |".toList

theorem line_rowRest :
    Text.line (rowRest types base descriptions field)
      = ' ' :: ((linkTo types base (shownType field)).markdown.toList
        ++ rowEnd descriptions field) := by
  have hrest : (rowRest types base descriptions field).toList
      = (' ' :: ((linkTo types base (shownType field)).markdown.toList
        ++ rowEnd descriptions field)) ++ ['\n'] := by
    cases descriptions <;> simp [rowRest, rowEnd]
  rw [Text.line, hrest, List.dropLast_concat]

/-- The line of a field starts with its name and goes on with its type. -/
theorem fieldLine_eq :
    fieldLine types base descriptions field
      = rowStart.toList ++ (field.name.toList ++ (":`".toList
        ++ (' ' :: ((linkTo types base (shownType field)).markdown.toList
          ++ rowEnd descriptions field)))) := by
  rw [fieldLine, line_rowRest]
  simp [sortKey]

/-- The pipes at the end of a row are those around its second column, if it
has one. -/
theorem barePipesAfter_rowEnd (last : Char) :
    Text.barePipesAfter last (rowEnd descriptions field)
      = if descriptions then 2 else 1 := by
  cases descriptions with
  | false => simp [rowEnd, Text.barePipesAfter]
  | true =>
      have hcell : rowEnd true field = ' ' :: '|' :: ' '
          :: (Text.escapePipes
              (Text.singleLine (field.description.getD "")).toList
            ++ ' ' :: ['|']) := by
        simp [rowEnd, Text.cell]
      rw [hcell, Text.barePipesAfter_blank, Text.barePipesAfter,
        Text.barePipesAfter_blank, Text.barePipesAfter_escapePipes]
      decide

theorem NamedField.shown (h : NamedField field) :
    Sdl.IsWord (shownType field).toList := by
  unfold shownType
  cases htarget : field.type.target with
  | none => exact List.forall_mem_nil _
  | some target => exact Sdl.isWord_of_isName (h.type target htarget)

-- =============================================================== pipes

/-- A linked name is written in brackets, with its address in
parentheses. -/
theorem toList_markdown_linked (name url : String) :
    (Link.linked name url).markdown.toList
      = "[`".toList ++ (name.toList ++ ("`](".toList
        ++ (url.toList ++ [')']))) := by
  simp [Link.markdown]

theorem toList_markdown_plain (name : String) :
    (Link.plain name).markdown.toList = '`' :: (name.toList ++ ['`']) := by
  simp [Link.markdown]

/-- The number of pipes that make the columns of a row. -/
def columnPipes (descriptions : Bool) : Nat := if descriptions then 3 else 2

/-- A row has the pipes of its columns, and those of its link. -/
theorem NamedField.barePipes_fieldLine (h : NamedField field)
    (hslash : '\\' ∉ (linkTo types base (shownType field)).markdown.toList) :
    Text.barePipes (fieldLine types base descriptions field)
      = columnPipes descriptions
        + (linkTo types base (shownType field)).markdown.toList.count '|' := by
  have hname := Sdl.isWord_of_isName h.name
  have hfront : fieldLine types base descriptions field
      = (rowStart.toList ++ (field.name.toList ++ (":` ".toList
          ++ (linkTo types base (shownType field)).markdown.toList)))
        ++ rowEnd descriptions field := by
    rw [fieldLine_eq]
    simp
  have hbare : '\\' ∉ rowStart.toList ++ (field.name.toList ++ (":` ".toList
      ++ (linkTo types base (shownType field)).markdown.toList)) := by
    simp [rowStart, indent, hname.not_mem (c := '\\') rfl, hslash]
  have hstart : rowStart.toList.count '|' = 1 := by decide
  have hcolon : ":` ".toList.count '|' = 0 := by decide
  rw [hfront, Text.barePipes, Text.barePipesAfter_append (by decide) hbare,
    barePipesAfter_rowEnd, List.count_append, List.count_append,
    List.count_append, hstart, hcolon,
    List.count_eq_zero.mpr (hname.not_mem rfl), columnPipes]
  split <;> omega

/-- A name that is not linked adds no pipes. -/
theorem NamedField.barePipes_plain (h : NamedField field)
    (hnot : ¬ NamedOnce types (shownType field)) :
    Text.barePipes (fieldLine types base descriptions field)
      = columnPipes descriptions := by
  have hmark : ∀ c, Sdl.continuesName c = false → c ≠ '`' →
      c ∉ (linkTo types base (shownType field)).markdown.toList := by
    intro c hc htick
    rw [linkTo_of_not_namedOnce hnot, toList_markdown_plain]
    simp [htick, h.shown.not_mem hc]
  rw [h.barePipes_fieldLine (hmark '\\' rfl (by decide)),
    List.count_eq_zero.mpr (hmark '|' rfl (by decide)), Nat.add_zero]

/-- A link adds the pipes of the base. -/
theorem NamedField.barePipes_linked (h : NamedField field)
    (hbase : base.Read) (hone : NamedOnce types (shownType field)) :
    Text.barePipes (fieldLine types base descriptions field)
      = columnPipes descriptions + base.chars.count '|' := by
  have hmark : ∀ c ∈ ['|', '\\'],
      (linkTo types base (shownType field)).markdown.toList.count c
        = base.chars.count c := by
    intro c hc
    obtain ⟨hword, hquery, hopen, hmiddle, hclose⟩ :
        Sdl.continuesName c = false ∧ c ∉ PageBase.query
          ∧ "[`".toList.count c = 0 ∧ "`](".toList.count c = 0
          ∧ [')'].count c = 0 := by
      rcases List.mem_pair.mp hc with rfl | rfl <;> decide
    rw [linkTo_of_namedOnce hone, toList_markdown_linked, List.count_append,
      List.count_append, List.count_append, List.count_append, hopen, hmiddle,
      hclose, List.count_eq_zero.mpr (h.shown.not_mem hword),
      PageBase.count_pageUrl h.shown hquery hword]
    omega
  have hslash : '\\' ∉ base.chars :=
    not_mem_of_isMild fun c hc => PageBase.isMild_of_mem_chars hbase hc
  have hlink :
      '\\' ∉ (linkTo types base (shownType field)).markdown.toList := by
    rw [← List.count_eq_zero, hmark '\\' (by decide), List.count_eq_zero]
    exact hslash
  rw [h.barePipes_fieldLine hlink, hmark '|' (by decide)]

-- ============================================================ read back

/-- A name that is not linked is read back. -/
theorem NamedField.linkIn_plain (h : NamedField field)
    (hnot : ¬ NamedOnce types (shownType field)) :
    linkIn (fieldLine types base descriptions field)
      = some (linkTo types base (shownType field)) := by
  have hslash : '\\' ∉ " `".toList ++ ((shownType field).toList ++ ['`']) := by
    simp [h.shown.not_mem (c := '\\') rfl]
  have hpipe : '|' ∉ " `".toList ++ ((shownType field).toList ++ ['`']) := by
    simp [h.shown.not_mem (c := '|') rfl]
  have hrest : ' ' :: ((Link.plain (shownType field)).markdown.toList
        ++ rowEnd descriptions field)
      = (" `".toList ++ ((shownType field).toList ++ ['`']))
        ++ rowEnd descriptions field := by
    rw [toList_markdown_plain]
    rfl
  rw [fieldLine_eq, linkIn_append (Sdl.isWord_of_isName h.name),
    linkTo_of_not_namedOnce hnot, hrest, Text.column_append hslash hpipe,
    List.append_assoc, List.append_assoc]
  exact readShown_plain (h.shown.not_mem rfl) _

/-- Of a link is read what is read as its address. -/
theorem NamedField.linkIn_linked (h : NamedField field)
    (hone : NamedOnce types (shownType field)) :
    linkIn (fieldLine types base descriptions field)
      = (Text.address 0 (Text.column
          ((base.pageUrl (shownType field)).toList
            ++ ')' :: rowEnd descriptions field))).map
        fun url => .linked (shownType field) (String.ofList url) := by
  have hslash : '\\' ∉ " [`".toList
      ++ ((shownType field).toList ++ "`](".toList) := by
    simp [h.shown.not_mem (c := '\\') rfl]
  have hpipe : '|' ∉ " [`".toList
      ++ ((shownType field).toList ++ "`](".toList) := by
    simp [h.shown.not_mem (c := '|') rfl]
  have hrest : ∀ url : String, ' '
        :: ((Link.linked (shownType field) url).markdown.toList
          ++ rowEnd descriptions field)
      = (" [`".toList ++ ((shownType field).toList ++ "`](".toList))
        ++ (url.toList ++ ')' :: rowEnd descriptions field) := by
    intro url
    rw [toList_markdown_linked]
    simp
  rw [fieldLine_eq, linkIn_append (Sdl.isWord_of_isName h.name),
    linkTo_of_namedOnce hone, hrest, Text.column_append hslash hpipe,
    List.append_assoc, List.append_assoc]
  exact readShown_linked (h.shown.not_mem rfl) _

/-- A link is read back if the base stands in one column and is balanced. -/
theorem NamedField.linkIn_linked_eq_iff (h : NamedField field)
    (hbase : base.Read) (hone : NamedOnce types (shownType field)) :
    linkIn (fieldLine types base descriptions field)
        = some (linkTo types base (shownType field))
      ↔ '|' ∉ base.chars ∧ Text.Balanced base.chars := by
  have hmild : ∀ c ∈ (base.pageUrl (shownType field)).toList, IsMild c :=
    fun c hc => PageBase.isMild_of_mem_pageUrl hbase h.shown hc
  have hslash := not_mem_of_isMild hmild
  have hpipe : '|' ∈ (base.pageUrl (shownType field)).toList
      ↔ '|' ∈ base.chars := PageBase.mem_pageUrl_iff h.shown (by decide) rfl
  rw [h.linkIn_linked hone, linkTo_of_namedOnce hone, ← hpipe,
    ← PageBase.balanced_pageUrl_iff h.shown,
    ← Text.address_column_eq_iff hslash
      (fun c hc => ⟨(hmild c hc).1, Nat.ne_of_lt (hmild c hc).2.1⟩)
      (rowEnd descriptions field), Option.map_eq_some_iff]
  constructor
  · rintro ⟨url, hsome, heq⟩
    have hurl : String.ofList url = base.pageUrl (shownType field) :=
      (Link.linked.inj heq).2
    rw [hsome, ← hurl, String.toList_ofList]
  · intro hsome
    exact ⟨_, hsome, by rw [String.ofList_toList]⟩

-- ================================================================ rows

/-- What becomes of the row of a field in the tables of a site. -/
structure RowKept (types : List TypeDef) (base : PageBase)
    (descriptions : Bool) (field : Field) : Prop where
  line : Text.IsLine (fieldRow types base descriptions field)
  plain : ¬ NamedOnce types (shownType field) →
    Text.barePipes (Text.line (fieldRow types base descriptions field))
      = columnPipes descriptions
  linked : NamedOnce types (shownType field) →
    Text.barePipes (Text.line (fieldRow types base descriptions field))
      = columnPipes descriptions + base.text.toList.count '|'
  /-- The link is read back, name and address. -/
  link : linkIn (Text.line (fieldRow types base descriptions field))
      = some (linkTo types base (shownType field))
    ↔ (NamedOnce types (shownType field) →
        '|' ∉ base.text.toList ∧ Text.Balanced base.text.toList)

/-- A named field keeps its row on one line. -/
theorem NamedField.onLines (h : NamedField field) : OnLines "" [field] where
  owner := by decide
  names := List.forall_mem_singleton.mpr
    ((Sdl.isWord_of_isName h.name).not_mem rfl)
  types := List.forall_mem_singleton.mpr (h.shown.not_mem rfl)

/-- What its row says can be read back. -/
theorem NamedField.rowKept (h : NamedField field) (hbase : base.Read)
    (types : List TypeDef) (descriptions : Bool) :
    RowKept types base descriptions field := by
  have hfeed := PageBase.lineFeed_not_mem_text hbase
  obtain ⟨hline, hrow⟩ : Text.IsLine (fieldRow types base descriptions field)
      ∧ Text.line (fieldRow types base descriptions field)
        = fieldLine types base descriptions field :=
    h.onLines.isLine_fieldRow hfeed List.mem_cons_self
  refine ⟨hline, ?_, ?_, ?_⟩
  · intro hnot
    rw [hrow]
    exact h.barePipes_plain hnot
  · intro hone
    rw [hrow, PageBase.toList_text]
    exact h.barePipes_linked hbase hone
  · rw [hrow, PageBase.toList_text]
    by_cases hone : NamedOnce types (shownType field)
    · rw [h.linkIn_linked_eq_iff hbase hone]
      exact ⟨fun hkept _ => hkept, fun hkept => hkept hone⟩
    · exact iff_of_true (h.linkIn_plain hone) fun hyes => absurd hyes hone

/-- Links survive in tables exactly as far as the address of the site lets
them. Pipes in it come from its path, and backticks from the name of its
host. The address in a link is visible, without angle brackets and escapes,
and it fits in a cell exactly if the address of the site fits in a table.
The row of a field has the pipes that make its columns and, if it has a
link, those of the site. The link is read back from the row, name and
address, unless the address of the site has a pipe or a parenthesis without
its other half. -/
theorem links_survive_iff {raw : String}
    (hbase : PageBase.parse raw = .ok base) :
    (('|' ∈ base.text.toList ↔ ∃ segment ∈ base.path, '|' ∈ segment)
      ∧ ('`' ∈ base.text.toList ↔ '`' ∈ base.host.write))
    ∧ (∀ types name url, Sdl.isName name.toList = true →
        linkTo types base name = .linked name url →
        (∀ c ∈ url.toList, IsMild c)
          ∧ (FitsCell url.toList ↔ base.FitsTable))
    ∧ ∀ types descriptions owner name fields,
        (∀ field ∈ fields, NamedField field) →
        ∃ ordered : List Field, ordered.Perm fields
          ∧ ofFields types base descriptions owner name fields
            = opening descriptions owner.keyword
                (linkTo types base name).markdown
              ++ delimiter descriptions
              ++ String.join (ordered.map (fieldRow types base descriptions))
              ++ closing descriptions
          ∧ ∀ field ∈ ordered, RowKept types base descriptions field := by
  have hread := PageBase.read_of_parse hbase
  refine ⟨?_, ?_, ?_⟩
  · rw [PageBase.toList_text]
    exact ⟨PageBase.pipe_mem_chars_iff hread,
      PageBase.tick_mem_chars_iff hread⟩
  · intro types name url hname hlink
    have hword := Sdl.isWord_of_isName hname
    have hurl : url = base.pageUrl name := by
      unfold linkTo at hlink
      split at hlink
      · exact (Link.linked.inj hlink).2.symm
      · cases hlink
    rw [hurl]
    exact ⟨fun c hc => PageBase.isMild_of_mem_pageUrl hread hword hc,
      PageBase.fitsCell_pageUrl_iff hread hword⟩
  · intro types descriptions owner name fields hfields
    obtain ⟨ordered, hperm, hsorted⟩ :=
      Text.exists_sorted_map (fieldRow types base descriptions) fields
    refine ⟨ordered, hperm, ?_, ?_⟩
    · rw [← hsorted]
      rfl
    · intro field hfield
      exact (hfields field (hperm.mem_iff.mp hfield)).rowKept hread types
        descriptions

/-- A field with a pipe in its description. -/
def idField : Field := ⟨"id", some "the | number", .nonNull (.named "ID")⟩

/-- The type of the field. -/
def idTypes : List TypeDef := [⟨"ID", none, .scalar⟩]

/-- The site at `home`, with a path. -/
def homeAt (segment : String) : PageBase :=
  { home with path := [segment.toList] }

theorem namedField_idField : NamedField idField where
  name := by decide
  type target htarget := by
    have htype : idField.type.target = some "ID" := by decide
    obtain rfl := Option.some.inj (htype.symm.trans htarget)
    decide

/-- The pipe in the description is escaped and cuts nothing. One in the
path of the site is not, and it cuts the link. A parenthesis in the path
cuts nothing, but the address of the link ends there. -/
theorem links_survive_iff_idField :
    PageBase.parse "http://[::]" = .ok home
      ∧ PageBase.parse "http://[::]/a|b" = .ok (homeAt "a|b")
      ∧ PageBase.parse "http://[::]/a)" = .ok (homeAt "a)")
      ∧ linkIn (Text.line (fieldRow idTypes home true idField))
        = some (linkTo idTypes home "ID")
      ∧ ¬ FitsCell ((homeAt "a|b").pageUrl "ID").toList
      ∧ Text.barePipes
          (Text.line (fieldRow idTypes (homeAt "a|b") true idField)) = 4
      ∧ Text.barePipes
          (Text.line (fieldRow idTypes (homeAt "a)") true idField)) = 3
      ∧ linkIn (Text.line (fieldRow idTypes (homeAt "a|b") true idField))
        ≠ some (linkTo idTypes (homeAt "a|b") "ID")
      ∧ linkIn (Text.line (fieldRow idTypes (homeAt "a)") true idField))
        ≠ some (linkTo idTypes (homeAt "a)") "ID") := by
  have hhome : PageBase.parse "http://[::]" = .ok home := by decide +kernel
  have hpipe : PageBase.parse "http://[::]/a|b" = .ok (homeAt "a|b") := by
    decide +kernel
  have hclose : PageBase.parse "http://[::]/a)" = .ok (homeAt "a)") := by
    decide +kernel
  have hone : NamedOnce idTypes (shownType idField) :=
    ⟨⟨"ID", none, .scalar⟩, by decide⟩
  have hrow : ∀ {raw base}, PageBase.parse raw = .ok base →
      RowKept idTypes base true idField := by
    intro raw base hparse
    obtain ⟨ordered, hperm, -, hkept⟩ :=
      (links_survive_iff hparse).2.2 idTypes true .type "User" [idField]
        (List.forall_mem_singleton.mpr namedField_idField)
    exact hkept idField (hperm.mem_iff.mpr List.mem_cons_self)
  refine ⟨hhome, hpipe, hclose, ?_, ?_, ?_, ?_, ?_, ?_⟩
  · exact (hrow hhome).link.mpr fun _ => ⟨by decide, by decide⟩
  · intro hfits
    have hbase := ((links_survive_iff hpipe).2.1 idTypes "ID" _ (by decide)
      (linkTo_of_namedOnce hone)).2.mp hfits
    exact hbase.pipes (by decide)
  · rw [(hrow hpipe).linked hone]
    decide
  · rw [(hrow hclose).linked hone]
    decide
  · intro hlink
    exact ((hrow hpipe).link.mp hlink hone).1 (by decide)
  · intro hlink
    exact absurd ((hrow hclose).link.mp hlink hone).2 (by decide)

end Table

end SchemaDocs
