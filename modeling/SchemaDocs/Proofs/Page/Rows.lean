/-
The order of rows.

The rows of a table of fields are sorted by their whole texts, in which
links, addresses and descriptions stand as well. But the order is a
matter of names alone (`rows_follow_names`): it is the order of what
stands in the rows up to the end of the name, a colon and a backtick
included. So `id2` comes before `id`, and `id` before `idx`, whatever
the fields are of and whatever is said of them.

# Why nothing else counts

Two rows start alike, and then comes the name with the colon and the
backtick. No name holds a backtick, and so none of these texts is the
beginning of another (`not_sortKey_start`); of two of them the one is
less at a place that both have, and there the rows are decided
(`lt_append_of_lt`).

The rows are read off the text of the table. They are its lines with the
beginning of a row, which the opening row, the delimiter and the closing
row do not have (`dataRows_ofFields`).
-/
import SchemaDocs.Proofs.Page.Base
import SchemaDocs.Proofs.Page.Layout
import SchemaDocs.Proofs.Text.Delimited
import SchemaDocs.Proofs.Text.Lines

namespace SchemaDocs

-- ================================================================ order

/-- Texts that are decided are not decided anew by what follows. -/
theorem lt_append_of_lt {a b : List Char} (h : a < b) (hstart : ¬ a <+: b)
    (r s : List Char) : a ++ r < b ++ s := by
  induction a generalizing b with
  | nil => exact absurd List.nil_prefix hstart
  | cons c a ih =>
      cases b with
      | nil => cases h
      | cons d b =>
          rw [List.cons_append, List.cons_append, List.cons_lt_cons_iff]
          rcases List.cons_lt_cons_iff.mp h with hlt | ⟨rfl, hlt⟩
          · exact .inl hlt
          · refine .inr ⟨rfl, ih hlt fun hrest => hstart ?_⟩
            exact List.cons_prefix_cons.mpr ⟨rfl, hrest⟩

/-- An address that was read does not break a line. -/
theorem PageBase.lineFeed_not_mem_text {base : PageBase} (h : base.Read) :
    '\n' ∉ base.text.toList := by
  intro hmem
  rw [text, String.toList_ofList] at hmem
  have hvisible := isVisible_of_isInner (isInner_of_mem_chars h hmem)
  exact absurd hvisible.2.1 (by decide)

namespace Table

variable {types : List TypeDef} {base : PageBase} {descriptions : Bool}
  {owner : Owner} {name : String} {fields : List Field}

-- ============================================================== reading

/-- What the row of a field starts with. -/
def rowStart : String := "| " ++ indent ++ "`"

/-- The rows of fields in a table, from top to bottom. -/
def dataRows (table : String) : List (List Char) :=
  (Text.lines table.toList).filter rowStart.toList.isPrefixOf

/-- The name in the row of a field. It stands in code, before a colon. -/
def nameIn (row : List Char) : String :=
  String.ofList
    ((row.drop rowStart.length).takeWhile (· ≠ '`')).dropLast

/-- The names in a table of fields, from top to bottom. -/
def namesIn (table : String) : List String := (dataRows table).map nameIn

/-- What a row is placed by: the name with what ends it. -/
def sortKey (name : String) : String := name ++ ":`"

-- ================================================================ lines

/-- What stands in a row behind the name. -/
def rowRest (types : List TypeDef) (base : PageBase) (descriptions : Bool)
    (field : Field) : String :=
  " " ++ (linkTo types base (shownType field)).markdown
    ++ if descriptions then " | " ++ Text.cell field.description ++ " |\n"
       else " |\n"

/-- The row of a field is its start, its sort key and the rest. -/
theorem fieldRow_eq (field : Field) :
    fieldRow types base descriptions field
      = rowStart ++ (sortKey field.name
        ++ rowRest types base descriptions field) := by
  rw [← String.toList_inj]
  simp [fieldRow, row, rowStart, sortKey, rowRest]

/-- The rest of a row stays on its line if the type and the base do. -/
theorem isLine_rowRest {field : Field} (hbase : '\n' ∉ base.text.toList)
    (htype : '\n' ∉ (shownType field).toList) :
    Text.IsLine (rowRest types base descriptions field) := by
  have hfront : '\n'
      ∉ (" " ++ (linkTo types base (shownType field)).markdown).toList := by
    simp [not_mem_markdown (by decide) hbase htype]
  have hcell : '\n' ∉ (" | " ++ Text.cell field.description).toList := by
    simp [Text.lineFeed_not_mem_cell]
  have hend : Text.IsLine " |\n" := by decide
  unfold rowRest
  cases descriptions with
  | false => exact (hend.append_left hfront).1
  | true => exact ((hend.append_left hcell).1.append_left hfront).1

/-- The names in a table of fields keep to their lines. -/
structure OnLines (name : String) (fields : List Field) : Prop where
  owner : '\n' ∉ name.toList
  names : ∀ field ∈ fields, '\n' ∉ field.name.toList
  types : ∀ field ∈ fields, '\n' ∉ (shownType field).toList

/-- The row of a field without its line feed: the beginning of rows, the
name, and the rest. -/
def fieldLine (types : List TypeDef) (base : PageBase) (descriptions : Bool)
    (field : Field) : List Char :=
  rowStart.toList ++ ((sortKey field.name).toList
    ++ Text.line (rowRest types base descriptions field))

/-- Then the whole row is one line. -/
theorem OnLines.isLine_fieldRow (h : OnLines name fields)
    (hbase : '\n' ∉ base.text.toList) {field : Field}
    (hfield : field ∈ fields) :
    Text.IsLine (fieldRow types base descriptions field)
      ∧ Text.line (fieldRow types base descriptions field)
        = fieldLine types base descriptions field := by
  have hrest : Text.IsLine (rowRest types base descriptions field) :=
    isLine_rowRest hbase (h.types field hfield)
  have hkey : '\n' ∉ (sortKey field.name).toList := by
    simp [sortKey, h.names field hfield]
  have hstart : '\n' ∉ rowStart.toList := by decide
  obtain ⟨hnamed, hline⟩ := hrest.append_left hkey
  rw [fieldRow_eq, fieldLine, ← hline]
  exact hnamed.append_left hstart

/-- A row whose second column is empty is a line that starts with its
first column. -/
theorem isLine_bareRow {first : String} (h : '\n' ∉ first.toList) :
    Text.IsLine (bareRow descriptions first)
      ∧ ∃ rest, Text.line (bareRow descriptions first)
        = "| ".toList ++ (first.toList ++ rest) := by
  have hfront : '\n' ∉ ("| " ++ first).toList := by simp [h]
  have hend : ∀ text ∈ [" |\n", " | |\n"], Text.IsLine text := by decide
  have hrow : ∀ text ∈ [" |\n", " | |\n"],
      Text.IsLine ("| " ++ first ++ text)
        ∧ ∃ rest, Text.line ("| " ++ first ++ text)
          = "| ".toList ++ (first.toList ++ rest) := by
    intro text htext
    obtain ⟨hline, heq⟩ := (hend text htext).append_left hfront
    exact ⟨hline, Text.line text, by simp [heq]⟩
  unfold bareRow
  cases descriptions with
  | false => exact hrow " |\n" (by simp)
  | true => exact hrow " | |\n" (by simp)

/-- The text of a line that is not the row of a field. -/
def IsOther (text : String) : Prop :=
  Text.IsLine text ∧ rowStart.toList.isPrefixOf (Text.line text) = false

theorem isOther_opening {keyword shown : String}
    (hkeyword : '\n' ∉ keyword.toList) (hshown : '\n' ∉ shown.toList) :
    IsOther (opening descriptions keyword shown) := by
  have hfirst : '\n'
      ∉ ("**`" ++ keyword ++ "`** " ++ shown ++ " `\x7b`").toList := by
    simp [hkeyword, hshown]
  unfold opening
  obtain ⟨hline, rest, heq⟩ := isLine_bareRow hfirst
  refine ⟨hline, ?_⟩
  rw [heq]
  simp [rowStart, indent, List.isPrefixOf]

theorem isOther_delimiter : IsOther (delimiter descriptions) := by
  unfold IsOther
  cases descriptions <;> decide

theorem isOther_closing : IsOther (closing descriptions) := by
  unfold IsOther
  cases descriptions <;> decide

/-- The rows of fields in a table are the rows of its fields, sorted. -/
theorem OnLines.dataRows_ofFields (h : OnLines name fields)
    (hbase : '\n' ∉ base.text.toList) (types : List TypeDef)
    (descriptions : Bool) (owner : Owner) :
    ∃ ordered : List Field, ordered.Perm fields
      ∧ Text.sorted (fields.map (fieldRow types base descriptions))
        = ordered.map (fieldRow types base descriptions)
      ∧ dataRows (ofFields types base descriptions owner name fields)
        = ordered.map (fieldLine types base descriptions) := by
  obtain ⟨ordered, hperm, hsorted⟩ :=
    Text.exists_sorted_map (fieldRow types base descriptions) fields
  refine ⟨ordered, hperm, hsorted, ?_⟩
  have hopening : IsOther (opening descriptions owner.keyword
      (linkTo types base name).markdown) :=
    isOther_opening (by cases owner <;> decide)
      (not_mem_markdown (by decide) hbase h.owner)
  have hrow : ∀ field ∈ ordered,
      Text.IsLine (fieldRow types base descriptions field)
        ∧ Text.line (fieldRow types base descriptions field)
          = fieldLine types base descriptions field := fun field hfield =>
    h.isLine_fieldRow hbase (hperm.mem_iff.mp hfield)
  have hrows : (ordered.map (fieldRow types base descriptions)).map Text.line
      = ordered.map (fieldLine types base descriptions) := by
    rw [List.map_map]
    exact List.map_congr_left fun field hfield => (hrow field hfield).2
  have hall : (ordered.map (fieldLine types base descriptions)).filter
        rowStart.toList.isPrefixOf
      = ordered.map (fieldLine types base descriptions) := by
    refine List.filter_eq_self.mpr (List.forall_mem_map.mpr fun field _ => ?_)
    exact List.isPrefixOf_iff_prefix.mpr (List.prefix_append _ _)
  unfold dataRows
  rw [ofFields_eq_join, hsorted, Text.lines_join]
  · simp [hrows, hall, hopening.2, isOther_delimiter.2, isOther_closing.2]
  · simp only [List.forall_mem_cons, List.forall_mem_append,
      List.forall_mem_map]
    exact ⟨hopening.1, isOther_delimiter.1, fun field hfield =>
      (hrow field hfield).1, isOther_closing.1, List.forall_mem_nil _⟩

-- ================================================================ names

/-- What stands up to the end of one name is not the beginning of what
stands up to the end of another. -/
theorem not_sortKey_start {a b : String} (ha : '`' ∉ a.toList)
    (hb : '`' ∉ b.toList) (hne : a ≠ b) :
    ¬ (sortKey a).toList <+: (sortKey b).toList := by
  rintro ⟨rest, h⟩
  have hkeys : a.toList ++ (":`".toList ++ rest)
      = b.toList ++ (":`".toList ++ []) := by
    simpa [sortKey] using h
  obtain ⟨hab, -⟩ := Text.eq_of_append_stop (c := '`') (by decide) ha hb hkeys
  exact hne (String.toList_inj.mp hab)

/-- Rows are placed by what stands in them up to the end of the name. -/
theorem fieldRow_lt {f g : Field} (hf : '`' ∉ f.name.toList)
    (hg : '`' ∉ g.name.toList) (hne : f.name ≠ g.name)
    (h : sortKey f.name < sortKey g.name) :
    fieldRow types base descriptions f
      < fieldRow types base descriptions g := by
  rw [fieldRow_eq, fieldRow_eq, String.lt_iff, String.toList_append,
    String.toList_append, String.toList_append, String.toList_append]
  apply List.append_left_lt
  exact lt_append_of_lt (String.lt_iff.mp h) (not_sortKey_start hf hg hne) _ _

/-- Fields with one sort key share their name. -/
theorem sortKey_injective {a b : String} (h : sortKey a = sortKey b) :
    a = b :=
  (String.append_left_inj _).mp h

/-- The name is read from the row. -/
theorem nameIn_fieldLine {field : Field} (h : '`' ∉ field.name.toList) :
    nameIn (fieldLine types base descriptions field) = field.name := by
  have hkey : ∀ c ∈ field.name.toList ++ [':'], decide (c ≠ '`') = true := by
    intro c hc
    rw [decide_eq_true_eq]
    rintro rfl
    simp [h] at hc
  have hline : fieldLine types base descriptions field
      = rowStart.toList ++ ((field.name.toList ++ [':'])
        ++ '`' :: Text.line (rowRest types base descriptions field)) := by
    simp [fieldLine, sortKey]
  unfold nameIn
  rw [hline, ← String.length_toList, List.drop_left,
    List.takeWhile_append_of_pos hkey]
  simp

-- ================================================================ order

/-- The names in a table keep to their lines, and those of its fields are
told apart. -/
structure Legible (name : String) (fields : List Field) : Prop
    extends OnLines name fields where
  coded : ∀ field ∈ fields, '`' ∉ field.name.toList
  distinct : (fields.map Field.name).Nodup

/-- The names in a table are those of its fields, each once, in the order
of what stands up to their ends. -/
theorem Legible.namesIn_ofFields (h : Legible name fields)
    (hbase : '\n' ∉ base.text.toList) :
    (namesIn (ofFields types base descriptions owner name fields)).Perm
        (fields.map Field.name)
      ∧ (namesIn (ofFields types base descriptions owner name fields)).Pairwise
          fun a b => sortKey a < sortKey b := by
  obtain ⟨ordered, hperm, hsorted, hrows⟩ :=
    h.toOnLines.dataRows_ofFields hbase types descriptions owner
  have hcoded : ∀ field ∈ ordered, '`' ∉ field.name.toList :=
    fun field hfield => h.coded field (hperm.mem_iff.mp hfield)
  have hnames : namesIn (ofFields types base descriptions owner name fields)
      = ordered.map Field.name := by
    unfold namesIn
    rw [hrows, List.map_map]
    exact List.map_congr_left fun field hfield =>
      nameIn_fieldLine (hcoded field hfield)
  rw [hnames]
  refine ⟨hperm.map _, ?_⟩
  have hdistinct : ordered.Pairwise fun f g => f.name ≠ g.name :=
    List.pairwise_map.mp ((hperm.map Field.name).nodup_iff.mpr h.distinct)
  have hplaced : ordered.Pairwise fun f g =>
      fieldRow types base descriptions f
        ≤ fieldRow types base descriptions g :=
    List.pairwise_map.mp (hsorted ▸ Text.pairwise_sorted _)
  refine List.pairwise_map.mpr ((hdistinct.and hplaced).imp_of_mem ?_)
  intro f g hf hg ⟨hne, hle⟩
  -- If the keys were the other way round, the rows would be.
  by_contra hlt
  have hkeys : sortKey g.name < sortKey f.name := by
    refine String.not_le.mp fun hkey => hlt ?_
    by_contra hnot
    exact hne
      (sortKey_injective (String.le_antisymm hkey (String.not_lt.mp hnot)))
  exact String.not_lt.mpr hle
    (fieldRow_lt (hcoded g hg) (hcoded f hf) (Ne.symm hne) hkeys)

/-- The order of rows follows from the names of the fields. Read from top
to bottom, the rows of a table show the name of each field once, in the
order of what stands in them up to the end of the name. So the tables of
any two lists of fields with the same names show them in the same order,
whatever types and addresses there are, whatever else the fields have,
and whether or not descriptions are shown. -/
theorem rows_follow_names {raw : String}
    (hbase : PageBase.parse raw = .ok base)
    (h : Legible name fields) (types : List TypeDef) (descriptions : Bool)
    (owner : Owner) :
    (namesIn (ofFields types base descriptions owner name fields)).Perm
        (fields.map Field.name)
      ∧ (namesIn (ofFields types base descriptions owner name fields)).Pairwise
          (fun a b => a ++ ":`" < b ++ ":`")
      ∧ ∀ {address : String} {site : PageBase},
          PageBase.parse address = .ok site →
          ∀ {title : String} {others : List Field}, Legible title others →
          (others.map Field.name).Perm (fields.map Field.name) →
          ∀ schema shown keyword,
            namesIn (ofFields schema site shown keyword title others)
              = namesIn
                (ofFields types base descriptions owner name fields) := by
  obtain ⟨hnames, hplaced⟩ := h.namesIn_ofFields
    (PageBase.lineFeed_not_mem_text (PageBase.read_of_parse hbase))
  refine ⟨hnames, hplaced, ?_⟩
  intro address site hsite title others hothers hsame schema shown keyword
  obtain ⟨hnames', hplaced'⟩ := hothers.namesIn_ofFields
    (PageBase.lineFeed_not_mem_text (PageBase.read_of_parse hsite))
  refine List.Perm.eq_of_pairwise ?_ hplaced' hplaced
    (hnames'.trans (hsame.trans hnames.symm))
  intro a b _ _ hab hba
  exact absurd hba (String.lt_asymm hab)

/-- Fields whose names go on where others end. -/
def idFields : List Field :=
  [⟨"id", some "the | number", .nonNull (.named "ID")⟩,
    ⟨"idx", none, .named "Int"⟩, ⟨"id2", some "", []⟩, ⟨"", none, .named "ID"⟩]

/-- A site at an address of zeros. -/
def home : PageBase := ⟨.http, [], .ipv6 (List.replicate 8 0), none, []⟩

/-- Their rows, with descriptions on the one site and without them on
another. -/
theorem rows_follow_names_id :
    Legible "User" idFields
      ∧ namesIn (ofFields [⟨"ID", none, .scalar⟩] home true .type "User"
          idFields) = ["", "id2", "id", "idx"]
      ∧ ∃ site, PageBase.parse "https://[::]/a|b" = .ok site
        ∧ namesIn (ofFields [] site false .interface "User" idFields)
          = ["", "id2", "id", "idx"] := by
  have hlegible : Legible "User" idFields :=
    ⟨⟨by decide, by decide, by decide⟩, by decide, by decide⟩
  have hhome : PageBase.parse "http://[::]" = .ok home := by decide +kernel
  have hsite : PageBase.parse "https://[::]/a|b"
      = .ok { home with scheme := .https, path := ["a|b".toList] } := by
    decide +kernel
  obtain ⟨hnames, hplaced, hsame⟩ := rows_follow_names hhome hlegible
    [⟨"ID", none, .scalar⟩] true .type
  have hread : namesIn (ofFields [⟨"ID", none, .scalar⟩] home true .type "User"
      idFields) = ["", "id2", "id", "idx"] := by
    refine List.Perm.eq_of_pairwise ?_ hplaced (by decide)
      (hnames.trans (by decide))
    intro a b _ _ hab hba
    exact absurd hba (String.lt_asymm hab)
  exact ⟨hlegible, hread, _, hsite,
    (hsame hsite hlegible (.refl _) [] false .interface).trans hread⟩

end Table

end SchemaDocs
