/-
Headers.

A block may start with a header: the name of its type in bold, and the
description of the type behind it. A header is one line, and with it a
page is what it is without, but for this line and a blank one. Without
it the name does not stand in bold anywhere (`headers_come_and_go`).

# Where bold could come from

Bodies have bold text of their own, the keywords, and they have names,
links and descriptions. A name in bold is one word with four asterisks.
The frame of a line has no word with as many; names have no asterisks,
and neither have links if the base has none; and what stands in a cell
stood in the description, for neither folding nor escaping makes a word.
What is left is a description with the name in bold.
-/
import SchemaDocs.Proofs.Page.Blocks
import SchemaDocs.Proofs.Page.Cells

namespace SchemaDocs

-- ================================================================ types

/-- The names of the members of a type, and those that its fields refer
to, are names of the schema language. -/
structure TypeDef.Lettered (type : TypeDef) : Prop where
  fields : ∀ field ∈ type.fields, Table.NamedField field
  values : ∀ value ∈ type.values, Sdl.isName value.name.toList = true
  members : ∀ member ∈ type.members, Sdl.isName member.toList = true

/-- The piece is in no description that the body of a type shows. Tables
show descriptions only if they are wanted, a scalar shows its own. -/
structure TypeDef.Avoids (type : TypeDef) (descriptions : Bool)
    (piece : String) : Prop where
  fields : descriptions = true → ∀ field ∈ type.fields,
    ∀ text ∈ field.description, ¬ Holds text piece
  values : descriptions = true → ∀ value ∈ type.values,
    ∀ text ∈ value.description, ¬ Holds text piece
  own : type.kind = .scalar → ∀ text ∈ type.description, ¬ Holds text piece

namespace Page

variable {types : List TypeDef} {base : PageBase} {options : PageOptions}
  {descriptions : Bool} {type : TypeDef} {name first : String}
  {cs : List Char}

-- =============================================================== headers

/-- A header has no line breaks if the name has none. -/
theorem not_mem_header {c : Char} (hc : c = '\r' ∨ c = '\n')
    (hname : c ∉ type.name.toList) : c ∉ (header type).toList := by
  have hframe : c ∉ "**".toList ∧ c ∉ ": *".toList ∧ c ∉ "*".toList := by
    rcases hc with rfl | rfl <;> decide
  obtain ⟨hbold, hcolon, hend⟩ := hframe
  rw [header_eq]
  cases hline : headline type with
  | none =>
      simp only [String.toList_append, List.mem_append, not_or]
      exact ⟨⟨⟨hbold, hname⟩, hbold⟩, List.not_mem_nil⟩
  | some line =>
      simp only [String.toList_append, List.mem_append, not_or]
      exact ⟨⟨⟨hbold, hname⟩, hbold⟩, ⟨hcolon, not_mem_headline hc hline⟩,
        hend⟩

/-- A name in bold. -/
def bold (name : String) : String := "**" ++ name ++ "**"

/-- Headers start with it. -/
theorem holds_bold_header : Holds (header type) (bold type.name) := by
  rw [header_eq]
  exact (Holds.refl _).append_right _

-- ================================================================= bold

theorem asterisk_not_mem_of_isName (hname : Sdl.isName name.toList = true) :
    '*' ∉ name.toList :=
  (Sdl.isWord_of_isName hname).not_mem rfl

/-- A name in bold is one word. -/
theorem not_mem_bold (hname : Sdl.isName name.toList = true) {c : Char}
    (hc : Sdl.continuesName c = false) (hstar : c ≠ '*') :
    c ∉ (bold name).toList := by
  have hword := (Sdl.isWord_of_isName hname).not_mem hc
  simp [bold, hword, hstar]

/-- It has four asterisks. -/
theorem count_bold (hname : Sdl.isName name.toList = true) :
    (bold name).toList.count '*' = 4 := by
  have hstar : name.toList.count '*' = 0 :=
    List.count_eq_zero.mpr (asterisk_not_mem_of_isName hname)
  simp [bold, hstar]

theorem not_bold_of_not_mem (h : '*' ∉ cs) : ¬ (bold name).toList <:+: cs :=
  fun hstands => h (hstands.subset (by simp [bold]))

/-- A bold name takes four asterisks. -/
theorem not_bold_of_count_lt (hname : Sdl.isName name.toList = true)
    (h : cs.count '*' < 4) : ¬ (bold name).toList <:+: cs :=
  Text.not_infix_of_count_lt (count_bold hname ▸ h)

/-- It does not stand across a mark that no name has. -/
theorem not_bold_append (hname : Sdl.isName name.toList = true) {mark : Char}
    (hmark : Sdl.continuesName mark = false) (hstar : mark ≠ '*')
    {front back : List Char} (hfront : ¬ (bold name).toList <:+: front)
    (hback : ¬ (bold name).toList <:+: back) :
    ¬ (bold name).toList <:+: front ++ mark :: back := by
  rw [Text.infix_append_cons_iff (not_mem_bold hname hmark hstar), not_or]
  exact ⟨hfront, hback⟩

-- ================================================================= rows

/-- A row holds the bold name only if its description does. -/
theorem not_holds_row (hname : Sdl.isName name.toList = true)
    {description : Option String} (hfirst : '*' ∉ first.toList)
    (hdescription : descriptions = true →
      ∀ text ∈ description, ¬ Holds text (bold name)) :
    ¬ Holds (Table.row descriptions first description) (bold name) := by
  cases descriptions with
  | false =>
      apply not_bold_of_not_mem
      simp [Table.row, hfirst]
  | true =>
      have hrow : (Table.row true first description).toList
          = ("| " ++ first ++ " |").toList ++ ' '
            :: ((Text.cell description).toList ++ ' ' :: ['|', '\n']) := by
        simp [Table.row]
      have hfront : '*' ∉ ("| " ++ first ++ " |").toList := by simp [hfirst]
      have hcell : ¬ (bold name).toList <:+: (Text.cell description).toList :=
        by
        intro hstands
        have htext := Text.infix_of_infix_cell
          (not_mem_bold hname rfl (by decide))
          (not_mem_bold hname rfl (by decide)) hstands
        cases description with
        | none => exact not_bold_of_not_mem (by decide) htext
        | some text => exact hdescription rfl text rfl htext
      unfold Holds
      rw [hrow]
      exact not_bold_append hname rfl (by decide) (not_bold_of_not_mem hfront)
        (not_bold_append hname rfl (by decide) hcell
          (not_bold_of_not_mem (by decide)))

/-- Two of the asterisks of an opening row are before its first backtick,
and two behind it. -/
theorem not_holds_opening (hname : Sdl.isName name.toList = true)
    {keyword shown : String} (hkeyword : '*' ∉ keyword.toList)
    (hshown : '*' ∉ shown.toList) :
    ¬ Holds (Table.opening descriptions keyword shown) (bold name) := by
  have hrow : (Table.opening descriptions keyword shown).toList
      = "| **".toList ++ '`' :: (keyword ++ "`** " ++ shown ++ " `\x7b`"
        ++ if descriptions then " | |\n" else " |\n").toList := by
    simp [Table.opening, Table.bareRow]
  have hkeyword : keyword.toList.count '*' = 0 :=
    List.count_eq_zero.mpr hkeyword
  have hshown : shown.toList.count '*' = 0 := List.count_eq_zero.mpr hshown
  unfold Holds
  rw [hrow]
  refine not_bold_append hname rfl (by decide)
    (not_bold_of_count_lt hname (by decide)) (not_bold_of_count_lt hname ?_)
  cases descriptions <;> simp [hkeyword, hshown]

-- =============================================================== bodies

/-- A name in bold that stands in joined lines stands in one of them. -/
theorem not_holds_join (hname : Sdl.isName name.toList = true)
    {texts : List String}
    (h : ∀ text ∈ texts, Text.EndsLine text ∧ ¬ Holds text (bold name)) :
    ¬ Holds (String.join texts) (bold name) := by
  intro hholds
  have hfeed : '\n' ∉ (bold name).toList := not_mem_bold hname rfl (by decide)
  have hne : (bold name).toList ≠ [] := by simp [bold]
  obtain ⟨text, htext, htold⟩ :=
    Text.exists_holds_of_join (fun text htext => (h text htext).1) hfeed hne
      hholds
  exact (h text htext).2 htold

/-- A table does not hold it when its rows do not. -/
theorem not_holds_table (hname : Sdl.isName name.toList = true)
    {keyword shown : String} (hkeyword : '*' ∉ keyword.toList)
    (hshown : '*' ∉ shown.toList) {rows : List String}
    (hrows : ∀ row ∈ rows, Text.EndsLine row ∧ ¬ Holds row (bold name)) :
    ¬ Holds (String.join (Table.opening descriptions keyword shown
        :: Table.delimiter descriptions
        :: (rows ++ [Table.closing descriptions]))) (bold name) := by
  have hdelimiter : '*' ∉ (Table.delimiter descriptions).toList := by
    cases descriptions <;> decide
  have hclosing : '*' ∉ (Table.closing descriptions).toList := by
    cases descriptions <;> decide
  apply not_holds_join hname
  simp only [List.forall_mem_cons, List.forall_mem_append]
  exact ⟨⟨Table.endsLine_bareRow, not_holds_opening hname hkeyword hshown⟩,
    ⟨Table.endsLine_delimiter, not_bold_of_not_mem hdelimiter⟩, hrows,
    ⟨Table.endsLine_bareRow, not_bold_of_not_mem hclosing⟩,
    List.forall_mem_nil _⟩

/-- A table of fields does not hold it, because types and addresses have no
asterisks. -/
theorem not_holds_ofFields (hname : Sdl.isName name.toList = true)
    (hbase : '*' ∉ base.text.toList) {owner : Table.Owner}
    {fields : List Field} (hfields : ∀ field ∈ fields, Table.NamedField field)
    (hdescriptions : descriptions = true → ∀ field ∈ fields,
      ∀ text ∈ field.description, ¬ Holds text (bold name)) :
    ¬ Holds (Table.ofFields types base descriptions owner name fields)
      (bold name) := by
  have hlink : ∀ other : String, Sdl.IsWord other.toList →
      '*' ∉ (linkTo types base other).markdown.toList := fun other hother =>
    not_mem_markdown (by decide) hbase (hother.not_mem rfl)
  rw [Table.ofFields_eq_join]
  apply not_holds_table hname
  · cases owner <;> decide
  · exact hlink name (Sdl.isWord_of_isName hname)
  · intro row hrow
    obtain ⟨field, hfield, rfl⟩ :=
      List.mem_map.mp ((Text.sorted_perm _).mem_iff.mp hrow)
    have hmember := asterisk_not_mem_of_isName (hfields field hfield).name
    refine ⟨Table.endsLine_row, not_holds_row hname ?_ fun hshown =>
      hdescriptions hshown field hfield⟩
    simp [Table.indent, hmember, hlink _ (hfields field hfield).shown]

theorem not_holds_ofValues (hname : Sdl.isName name.toList = true)
    {values : List EnumValue}
    (hvalues : ∀ value ∈ values, Sdl.isName value.name.toList = true)
    (hdescriptions : descriptions = true → ∀ value ∈ values,
      ∀ text ∈ value.description, ¬ Holds text (bold name)) :
    ¬ Holds (Table.ofValues descriptions name values) (bold name) := by
  have hcode : '*' ∉ ("`" ++ name ++ "`").toList := by
    simp [asterisk_not_mem_of_isName hname]
  rw [Table.ofValues_eq_join]
  apply not_holds_table hname (by decide) hcode
  intro row hrow
  obtain ⟨value, hvalue, rfl⟩ := List.mem_map.mp hrow
  have hmember := asterisk_not_mem_of_isName (hvalues value hvalue)
  refine ⟨Table.endsLine_row, not_holds_row hname ?_ fun hshown =>
    hdescriptions hshown value hvalue⟩
  simp [Table.indent, hmember]

/-- The bold keyword of a union is cut in two by its first backtick. -/
theorem not_holds_unionBody (hname : Sdl.isName name.toList = true)
    {members : List String}
    (hmembers : ∀ member ∈ members, Sdl.isName member.toList = true) :
    ¬ Holds (unionBody name members) (bold name) := by
  have hmark := asterisk_not_mem_of_isName hname
  have hlist : '*' ∉ (" | ".intercalate
      (members.map fun member => "`" ++ member ++ "`")).toList := by
    refine not_mem_intercalate (by decide) (List.forall_mem_map.mpr ?_)
    intro member hmember
    simp [asterisk_not_mem_of_isName (hmembers member hmember)]
  obtain ⟨rest, hrest, hbody⟩ : ∃ rest : String, '*' ∉ rest.toList
      ∧ unionBody name members = "**`union`** `" ++ name ++ rest := by
    unfold unionBody
    split
    · exact ⟨"`\n", by decide, by simp [← String.toList_inj]⟩
    · refine ⟨"` = " ++ " | ".intercalate
        (members.map fun member => "`" ++ member ++ "`") ++ "\n", ?_,
        by simp [← String.toList_inj]⟩
      simp only [String.toList_append, List.mem_append, not_or]
      exact ⟨⟨by decide, hlist⟩, by decide⟩
  have hmarked : (unionBody name members).toList
      = "**".toList ++ '`' :: ("union`** `" ++ name ++ rest).toList := by
    rw [hbody]
    simp
  unfold Holds
  rw [hmarked]
  refine not_bold_append hname rfl (by decide)
    (not_bold_of_count_lt hname (by decide)) (not_bold_of_count_lt hname ?_)
  simp [List.count_eq_zero.mpr hmark, List.count_eq_zero.mpr hrest]

/-- A scalar shows it only in its description. -/
theorem not_holds_scalarBody (hname : Sdl.isName name.toList = true)
    {description : Option String}
    (hdescription : ∀ text ∈ description, ¬ Holds text (bold name)) :
    ¬ Holds (scalarBody name description) (bold name) := by
  have hmark := asterisk_not_mem_of_isName hname
  cases hreadable : readable description with
  | none =>
      apply not_bold_of_not_mem
      simp [scalarBody, hreadable, hmark]
  | some text =>
      have htext : ¬ Holds text (bold name) :=
        hdescription text (Option.mem_filter_iff.mp hreadable).1
      have hbody : (scalarBody name description).toList
          = ("`" ++ name ++ "`:").toList
            ++ ' ' :: (text.toList ++ '\n' :: []) := by
        simp [scalarBody, hreadable]
      have hfront : '*' ∉ ("`" ++ name ++ "`:").toList := by simp [hmark]
      unfold Holds
      rw [hbody]
      exact not_bold_append hname rfl (by decide) (not_bold_of_not_mem hfront)
        (not_bold_append hname rfl (by decide) htext
          (not_bold_of_not_mem (by decide)))

/-- No body has its name in bold. -/
theorem not_holds_body (hname : Sdl.isName type.name.toList = true)
    (hbase : '*' ∉ base.text.toList) (hlettered : type.Lettered)
    (havoids : type.Avoids descriptions (bold type.name)) :
    ¬ Holds (body types base descriptions type) (bold type.name) := by
  rcases type.kind.layout with ⟨owner, howner⟩ | hunion | henum | hscalar
  · rw [body_of_owner howner]
    exact not_holds_ofFields hname hbase hlettered.fields havoids.fields
  · rw [body_of_union hunion]
    exact not_holds_unionBody hname hlettered.members
  · rw [body_of_enum henum]
    exact not_holds_ofValues hname hlettered.values havoids.values
  · rw [body_of_scalar hscalar]
    exact not_holds_scalarBody hname (havoids.own hscalar)

-- ================================================================ pages

/-- So a page without a header does not hold the bold name, if no
description does. -/
theorem not_holds_page (hname : Sdl.isName name.toList = true)
    (hbase : '*' ∉ base.text.toList)
    (htypes : ∀ type ∈ typesNamed types name,
      type.Lettered ∧ type.Avoids descriptions (bold name)) :
    ¬ Holds (renderOrEmpty types base { header := false, descriptions } name)
      (bold name) := by
  unfold renderOrEmpty
  cases hpage : render types base { header := false, descriptions } name with
  | error missing =>
      show ¬ Holds "" (bold name)
      exact not_bold_of_not_mem (by decide)
  | ok page =>
      obtain ⟨blocks, hblocks⟩ := exists_madeOf_of_render hpage
      rw [hblocks.joined]
      apply not_holds_join hname
      intro text htext
      refine ⟨hblocks.ended text htext, ?_⟩
      obtain ⟨type, htype, rfl⟩ :=
        List.mem_map.mp (hblocks.perm.mem_iff.mp htext)
      obtain ⟨hlettered, havoids⟩ := htypes type htype
      have hown := name_of_mem_typesNamed htype
      subst hown
      exact not_holds_body hname hbase hlettered havoids

/-- Headers come and go as they are wanted. The page of one type is its
header, a blank line, and the page without headers; and the header has no
line breaks but those of the name. If names are names of the schema
language, the base has no asterisks, and no description that is shown has
the name in bold, then the page without headers has it nowhere, and so no
header of that name. -/
theorem headers_come_and_go (types : List TypeDef) (base : PageBase)
    (descriptions : Bool) (name : String) :
    (∀ type, typesNamed types name = [type] → ∃ page,
        render types base { header := false, descriptions } name = .ok page
          ∧ render types base { header := true, descriptions } name
            = .ok (header type ++ "\n\n" ++ page))
      ∧ (∀ type c, c = '\r' ∨ c = '\n' → c ∉ type.name.toList →
          c ∉ (header type).toList)
      ∧ (Sdl.isName name.toList = true → '*' ∉ base.text.toList →
          (∀ type ∈ typesNamed types name,
            type.Lettered ∧ type.Avoids descriptions ("**" ++ name ++ "**")) →
          ¬ Holds
              (renderOrEmpty types base { header := false, descriptions } name)
              ("**" ++ name ++ "**")
            ∧ ∀ type ∈ typesNamed types name,
              ¬ Holds
                (renderOrEmpty types base { header := false, descriptions }
                  name)
                (header type)) := by
  refine ⟨?_, fun type c hc hname => not_mem_header hc hname, ?_⟩
  · intro type htype
    exact ⟨body types base descriptions type,
      render_of_typesNamed_eq htype base _,
      render_of_typesNamed_eq htype base _⟩
  · intro hname hbase htypes
    have hbold := not_holds_page hname hbase htypes
    refine ⟨hbold, fun type htype hheader => hbold (hheader.trans ?_)⟩
    rw [← name_of_mem_typesNamed htype]
    exact holds_bold_header

/-- Two types of one name, with descriptions that come close to having it
in bold, and one more type that is called something else. -/
def echoes : List TypeDef :=
  [⟨"Echo", some "**Echo**", .enum [⟨"A", some "*Echo*| **Ech\r\no**"⟩]⟩,
    ⟨"Call", some "up\ndown", .object [⟨"to", some "**Echo", .named "Echo"⟩]⟩,
    ⟨"Echo", some "**Echo *of*", .scalar⟩]

/-- The one type has its header if that is wanted, in one line, and the
page of the two has neither of theirs if it is not. -/
theorem headers_come_and_go_echoes :
    (∃ page, render echoes .standard ⟨false, true⟩ "Call" = .ok page
        ∧ render echoes .standard ⟨true, true⟩ "Call"
          = .ok ("**Call**: *up down*" ++ "\n\n" ++ page))
      ∧ '\n' ∉ (header ⟨"Call", some "up\ndown", .object []⟩).toList
      ∧ ¬ Holds (renderOrEmpty echoes .standard ⟨false, true⟩ "Echo")
          "**Echo**"
      ∧ ¬ Holds (renderOrEmpty echoes .standard ⟨false, true⟩ "Echo")
        "**Echo**: ***Echo***" := by
  have hcall : typesNamed echoes "Call"
      = [⟨"Call", some "up\ndown",
          .object [⟨"to", some "**Echo", .named "Echo"⟩]⟩] := by decide
  have hechoes : ∀ type ∈ typesNamed echoes "Echo",
      type.Lettered ∧ type.Avoids true "**Echo**" := by
    have hplain : ∀ type ∈ typesNamed echoes "Echo",
        type.fields = [] ∧ type.members = [] := by decide
    have hvalues : ∀ type ∈ typesNamed echoes "Echo", ∀ value ∈ type.values,
        Sdl.isName value.name.toList = true
          ∧ ∀ text ∈ value.description, ¬ Holds text "**Echo**" := by
      decide +kernel
    have hown : ∀ type ∈ typesNamed echoes "Echo", type.kind = .scalar →
        ∀ text ∈ type.description, ¬ Holds text "**Echo**" := by
      decide +kernel
    intro type htype
    obtain ⟨hfields, hmembers⟩ := hplain type htype
    have hlettered : type.Lettered :=
      ⟨by simp [hfields],
        fun value hvalue => (hvalues type htype value hvalue).1,
        by simp [hmembers]⟩
    have havoids : type.Avoids true "**Echo**" :=
      ⟨by simp [hfields], fun _ value hvalue =>
        (hvalues type htype value hvalue).2, hown type htype⟩
    exact ⟨hlettered, havoids⟩
  obtain ⟨hshown, -, -⟩ := headers_come_and_go echoes .standard true "Call"
  obtain ⟨-, hline, hhidden⟩ :=
    headers_come_and_go echoes .standard true "Echo"
  obtain ⟨page, hwithout, hwith⟩ := hshown _ hcall
  obtain ⟨hbold, hheaders⟩ := hhidden (by decide) (by decide) hechoes
  refine ⟨⟨page, hwithout, hwith⟩, hline _ _ (.inr rfl) (by decide), hbold, ?_⟩
  exact hheaders ⟨"Echo", some "**Echo**",
    .enum [⟨"A", some "*Echo*| **Ech\r\no**"⟩]⟩ (by decide)

end Page

end SchemaDocs
