/-
The plain listing says all.

An overview is written in two ways, as text and as JSON. The text has a
heading for each group, the names below it, and a blank line between one
group and the next, and nothing marks names as names but two blanks in
front of them. That is enough. A name may be empty or look like a
heading, but as long as it keeps to its line, the groups are read back
from the text (`readGroups_text`), and with them everything that the JSON
says: overviews that are listed alike are the same in JSON
(`plain_listing_says_all`).

# How a listing is read

Line by line, from the last line up. A line with two blanks in front is a
name and belongs to the heading that comes next; a line that is the name
of a kind is a heading and takes the names that were read; any other line
is one between groups. The three cannot be confused, since no heading
starts with a blank.
-/
import SchemaDocs.CommandLine.Output
import SchemaDocs.Proofs.Overview.Entries
import SchemaDocs.Proofs.Text.Lines

namespace SchemaDocs

-- ================================================================ lines

/-- The names of an overview keep to their lines. -/
def Overview.OnLines (overview : Overview) : Prop :=
  ∀ group ∈ overview.groups, ∀ name ∈ group.2, '\n' ∉ name.toList

namespace CommandLine

variable {groups : List (Kind × List String)} {overview : Overview}

/-- The line of a name. -/
def nameText (name : String) : String := "  " ++ name ++ "\n"

/-- The lines of a group. -/
def groupTexts (group : Kind × List String) : List String :=
  (group.1.label ++ "\n") :: group.2.map nameText

/-- The lines of groups, with a blank line between one and the next. -/
def listingTexts : List (Kind × List String) → List String
  | [] => []
  | group :: rest =>
      groupTexts group
        ++ if rest.isEmpty then [] else "\n" :: listingTexts rest

/-- A group is written line by line. -/
theorem groupText_eq (group : Kind × List String) :
    groupText false group = String.join (groupTexts group) := by
  rw [groupTexts, String.join_cons]
  rfl

/-- A listing is made of its lines. -/
theorem text_eq (overview : Overview) :
    (Output.listing overview).text false
      = String.join (listingTexts overview.groups) := by
  show "\n".intercalate (overview.groups.map (groupText false)) = _
  induction overview.groups with
  | nil => rfl
  | cons group groups ih =>
      rw [List.map_cons, listingTexts, String.join_append, ← groupText_eq]
      cases groups with
      | nil => simp
      | cons next groups =>
          rw [List.map_cons, String.intercalate_cons_cons, ← List.map_cons, ih]
          simp [String.append_assoc]

/-- A name without a line feed stands on a line of its own, behind two
blanks. -/
theorem isLine_nameText {name : String} (h : '\n' ∉ name.toList) :
    Text.IsLine (nameText name)
      ∧ Text.line (nameText name) = ' ' :: ' ' :: name.toList := by
  refine Text.isLine_of_toList_eq (by simp [nameText]) ?_
  simp [h]

/-- So does the label of a kind, without blanks. -/
theorem isLine_heading (kind : Kind) :
    Text.IsLine (kind.label ++ "\n")
      ∧ Text.line (kind.label ++ "\n") = kind.label.toList := by
  refine Text.isLine_of_toList_eq (by simp) ?_
  cases kind <;> decide

/-- The lines of groups whose names keep to theirs are lines. -/
theorem isLine_of_mem_listingTexts
    (h : ∀ group ∈ groups, ∀ name ∈ group.2, '\n' ∉ name.toList) :
    ∀ text ∈ listingTexts groups, Text.IsLine text := by
  induction groups with
  | nil => exact List.forall_mem_nil _
  | cons group groups ih =>
      obtain ⟨hgroup, hgroups⟩ := List.forall_mem_cons.mp h
      have hnames : ∀ text ∈ groupTexts group, Text.IsLine text :=
        List.forall_mem_cons.mpr ⟨(isLine_heading group.1).1,
          List.forall_mem_map.mpr fun name hname =>
            (isLine_nameText (hgroup name hname)).1⟩
      rw [listingTexts]
      refine List.forall_mem_append.mpr ⟨hnames, ?_⟩
      split
      · exact List.forall_mem_nil _
      · exact List.forall_mem_cons.mpr ⟨by decide, ih hgroups⟩

-- ============================================================== reading

/-- A line with a name has two blanks in front. -/
def isNameLine (line : List Char) : Bool := [' ', ' '].isPrefixOf line

/-- Reads a line, given the names below it that wait for their heading and
the groups below these. -/
def readLine (line : List Char)
    (below : List String × List (Kind × List String)) :
    List String × List (Kind × List String) :=
  if isNameLine line then (String.ofList (line.drop 2) :: below.1, below.2)
  else
    match Kind.ofLabel? (String.ofList line) with
    | some kind => ([], (kind, below.1) :: below.2)
    | none => below

/-- The groups of a listing. -/
def readGroups (text : String) : List (Kind × List String) :=
  ((Text.lines text.toList).foldr readLine ([], [])).2

/-- The names of a listing, as they stand in it. -/
def nameLines (text : String) : List (List Char) :=
  (Text.lines text.toList).filter isNameLine

/-- Read from the end, the line of a name puts it before the names below. -/
theorem readLine_nameText {name : String} (h : '\n' ∉ name.toList)
    (names : List String) :
    readLine (Text.line (nameText name)) (names, groups)
      = (name :: names, groups) := by
  rw [(isLine_nameText h).2]
  simp [readLine, isNameLine]

theorem isNameLine_label (kind : Kind) :
    isNameLine kind.label.toList = false := by
  cases kind <;> rfl

/-- The line of a label makes a group of the names below it. -/
theorem readLine_heading (kind : Kind) (names : List String) :
    readLine (Text.line (kind.label ++ "\n")) (names, groups)
      = ([], (kind, names) :: groups) := by
  rw [(isLine_heading kind).2, readLine, isNameLine_label,
    String.ofList_toList,
    Kind.ofLabel?_label]
  rfl

theorem readLine_blank (below : List String × List (Kind × List String)) :
    readLine (Text.line "\n") below = below := rfl

/-- The lines of a group are read as the group. -/
theorem foldr_groupTexts {group : Kind × List String}
    (h : ∀ name ∈ group.2, '\n' ∉ name.toList) :
    ((groupTexts group).map Text.line).foldr readLine ([], groups)
      = ([], group :: groups) := by
  have hnames : ∀ names : List String, (∀ name ∈ names, '\n' ∉ name.toList) →
      ((names.map nameText).map Text.line).foldr readLine ([], groups)
        = (names, groups) := by
    intro names hnames
    induction names with
    | nil => rfl
    | cons name names ih =>
        obtain ⟨hname, hrest⟩ := List.forall_mem_cons.mp hnames
        rw [List.map_cons, List.map_cons, List.foldr_cons, ih hrest,
          readLine_nameText hname]
  rw [groupTexts, List.map_cons, List.foldr_cons, hnames group.2 h,
    readLine_heading]

/-- The lines of groups are read as the groups. -/
theorem foldr_listingTexts
    (h : ∀ group ∈ groups, ∀ name ∈ group.2, '\n' ∉ name.toList) :
    ((listingTexts groups).map Text.line).foldr readLine ([], [])
      = ([], groups) := by
  induction groups with
  | nil => rfl
  | cons group groups ih =>
      obtain ⟨hgroup, hgroups⟩ := List.forall_mem_cons.mp h
      rw [listingTexts, List.map_append, List.foldr_append]
      cases groups with
      | nil => exact foldr_groupTexts hgroup
      | cons next groups =>
          show ((groupTexts group).map Text.line).foldr readLine
            (readLine (Text.line "\n") (((listingTexts (next :: groups)).map
              Text.line).foldr readLine ([], []))) = _
          rw [ih hgroups, readLine_blank, foldr_groupTexts hgroup]

/-- A listing is made of these lines. -/
theorem lines_text (h : overview.OnLines) :
    Text.lines ((Output.listing overview).text false).toList
      = (listingTexts overview.groups).map Text.line := by
  rw [text_eq, Text.lines_join (isLine_of_mem_listingTexts h)]

/-- The groups are read back from the listing. -/
theorem readGroups_text (h : overview.OnLines) :
    readGroups ((Output.listing overview).text false) = overview.groups := by
  rw [readGroups, lines_text h, foldr_listingTexts h]

-- =============================================================== totals

/-- Of the lines of a group all but the heading are lines of names. -/
theorem filter_groupTexts {group : Kind × List String}
    (h : ∀ name ∈ group.2, '\n' ∉ name.toList) :
    ((groupTexts group).map Text.line).filter isNameLine
      = group.2.map fun name => Text.line (nameText name) := by
  have hnames : ∀ line ∈ group.2.map fun name => Text.line (nameText name),
      isNameLine line = true := by
    intro line hline
    obtain ⟨name, hname, rfl⟩ := List.mem_map.mp hline
    rw [(isLine_nameText (h name hname)).2]
    rfl
  have hheading : isNameLine (Text.line (group.1.label ++ "\n")) = false := by
    rw [(isLine_heading group.1).2]
    exact isNameLine_label group.1
  rw [groupTexts, List.map_cons, List.map_map,
    List.filter_cons_of_neg (by simp [hheading])]
  exact List.filter_eq_self.mpr hnames

/-- The lines of names are those of all groups. -/
theorem length_filter_listingTexts
    (h : ∀ group ∈ groups, ∀ name ∈ group.2, '\n' ∉ name.toList) :
    (((listingTexts groups).map Text.line).filter isNameLine).length
      = (groups.map fun group => group.2.length).sum := by
  induction groups with
  | nil => rfl
  | cons group groups ih =>
      obtain ⟨hgroup, hgroups⟩ := List.forall_mem_cons.mp h
      have hbelow : (((if groups.isEmpty then []
            else "\n" :: listingTexts groups).map Text.line).filter
              isNameLine).length
          = (groups.map fun group => group.2.length).sum := by
        cases groups with
        | nil => rfl
        | cons next groups =>
            have hblank : isNameLine (Text.line "\n") = false := by decide
            rw [← ih hgroups, if_neg (by simp), List.map_cons,
              List.filter_cons_of_neg (by simp [hblank])]
      rw [listingTexts, List.map_append, List.filter_append,
        List.length_append, hbelow, filter_groupTexts hgroup, List.length_map,
        List.map_cons, List.sum_cons]

/-- A listing has a line of a name for each name that it counts. -/
theorem length_nameLines (h : overview.OnLines) :
    (nameLines ((Output.listing overview).text false)).length
      = overview.total := by
  rw [nameLines, lines_text h, length_filter_listingTexts h,
    Overview.total_eq_sum]

theorem members_listing (overview : Overview) :
    (Output.listing overview).members
      = [("total", .ofNat overview.total),
        ("types", Json.sortedObject (overview.groups.map fun group =>
          (group.1.label, .array (group.2.map .string))))] := rfl

/-- What is said in JSON is said of the groups. -/
theorem json_congr {other : Overview} (h : overview.groups = other.groups) :
    (Output.listing overview).json = (Output.listing other).json := by
  have htotal : overview.total = other.total := by
    rw [Overview.total_eq_sum, Overview.total_eq_sum, h]
  unfold Output.json
  refine congrArg Json.object ?_
  rw [members_listing, members_listing, h, htotal]

-- ============================================================== schemas

/-- The listing of a schema. -/
def listed (types : List TypeDef) (withBuiltins : Bool) : Output :=
  .listing (Overview.ofTypes types withBuiltins)

/-- Types whose names keep to their lines have such an overview. -/
theorem onLines_ofTypes {types : List TypeDef}
    (h : ∀ type ∈ types, '\n' ∉ type.name.toList) (withBuiltins : Bool) :
    (Overview.ofTypes types withBuiltins).OnLines := by
  intro group hgroup name hname
  have hentry : (group.1, name)
      ∈ (Overview.ofTypes types withBuiltins).entries :=
    List.mem_flatMap.mpr ⟨group, hgroup, List.mem_map.mpr ⟨name, hname, rfl⟩⟩
  obtain ⟨type, htype, heq⟩ := List.mem_map.mp
    ((Overview.entries_perm types withBuiltins).mem_iff.mp hentry)
  have hname : type.name = name := congrArg Prod.snd heq
  exact hname ▸ h type (List.mem_of_mem_filter htype)

/-- The plain listing of a schema says all. Its groups partition the types
that are listed, whatever the order of the types, and to leave the types
that every schema has out of the listing is to leave them out of the
schema. Where the names keep to their lines, the groups are read back from
the plain text, which has a line for each name that JSON counts; and where
another schema is listed alike in plain text, it is in JSON. -/
theorem plain_listing_says_all (types : List TypeDef) (withBuiltins : Bool) :
    (Overview.ofTypes types withBuiltins).Partitions
        (types.filter (Overview.lists withBuiltins))
      ∧ (∀ others, types.Perm others →
          Overview.ofTypes types withBuiltins
            = Overview.ofTypes others withBuiltins)
      ∧ Overview.ofTypes types false
          = Overview.ofTypes (types.filter fun type => !type.isBuiltin) true
      ∧ ((∀ type ∈ types, '\n' ∉ type.name.toList) →
          readGroups ((listed types withBuiltins).text false)
            = (Overview.ofTypes types withBuiltins).groups
          ∧ (listed types withBuiltins).json.get? "total"
            = some (.ofNat (nameLines
                ((listed types withBuiltins).text false)).length)
          ∧ ∀ others withOthers,
              (∀ type ∈ others, '\n' ∉ type.name.toList) →
              (listed others withOthers).text false
                = (listed types withBuiltins).text false →
              (listed others withOthers).json
                = (listed types withBuiltins).json) := by
  refine ⟨Overview.partitions_ofTypes types withBuiltins, ?_,
    Overview.ofTypes_false types, ?_⟩
  · intro others hothers
    exact Overview.ofTypes_congr hothers withBuiltins
  · intro hnames
    have hlines := onLines_ofTypes hnames withBuiltins
    have hgroups := readGroups_text hlines
    refine ⟨hgroups, ?_, ?_⟩
    · unfold listed
      rw [length_nameLines hlines]
      rfl
    · intro others withOthers hothers htext
      unfold listed at htext ⊢
      apply json_congr
      rw [← hgroups, ← htext,
        readGroups_text (onLines_ofTypes hothers withOthers)]

/-- Names that are nothing, look like headings or look like other lines. -/
def oddTypes : List TypeDef :=
  [⟨"OBJECT", none, .object []⟩, ⟨"", some "nothing", .object []⟩,
    ⟨"ENUM", none, .scalar⟩, ⟨"ID", none, .scalar⟩,
    ⟨"  User", none, .object []⟩, ⟨"OBJECT", none, .object []⟩]

/-- Their listing, and what is read of it. -/
theorem plain_listing_says_all_oddTypes :
    (listed oddTypes false).text false
        = "OBJECT\n  \n    User\n  OBJECT\n  OBJECT\n\nSCALAR\n  ENUM\n"
      ∧ readGroups ((listed oddTypes false).text false)
        = [(.object, ["", "  User", "OBJECT", "OBJECT"]), (.scalar, ["ENUM"])]
      ∧ (listed oddTypes false).json.get? "total" = some (.ofNat 5)
      ∧ (listed oddTypes.reverse false).json
        = (listed oddTypes false).json := by
  have hgroups : (Overview.ofTypes oddTypes false).groups
      = [(.object, ["", "  User", "OBJECT", "OBJECT"]),
        (.scalar, ["ENUM"])] := by
    have hobjects : (Overview.ofTypes oddTypes false).names .object
        = ["", "  User", "OBJECT", "OBJECT"] :=
      Text.sorted_eq (by decide) (by decide)
    have hscalars : (Overview.ofTypes oddTypes false).names .scalar
        = ["ENUM"] := Text.sorted_eq (by decide) (by decide)
    have hnone : ∀ kind, kind ≠ .object → kind ≠ .scalar →
        (Overview.ofTypes oddTypes false).names kind = [] := by
      intro kind hobject hscalar
      refine Text.sorted_eq ?_ .nil
      cases kind <;> first | contradiction | decide
    simp [Overview.groups, Kind.all, hobjects, hscalars, hnone]
  obtain ⟨-, hsame, -, hlines⟩ := plain_listing_says_all oddTypes false
  obtain ⟨hread, htotal, hothers⟩ := hlines (by decide)
  have htext : (listed oddTypes false).text false
      = "OBJECT\n  \n    User\n  OBJECT\n  OBJECT\n\nSCALAR\n  ENUM\n" := by
    unfold listed
    rw [text_eq, hgroups]
    decide
  refine ⟨htext, hread.trans hgroups, ?_, ?_⟩
  · have hfive : (nameLines ("OBJECT\n  \n    User\n  OBJECT\n  OBJECT\n\n"
        ++ "SCALAR\n  ENUM\n")).length = 5 := by decide
    rw [htotal, htext]
    exact congrArg (fun count => some (Json.ofNat count)) hfive
  · have hreverse : Overview.ofTypes oddTypes.reverse false
        = Overview.ofTypes oddTypes false :=
      (hsame _ oddTypes.reverse_perm.symm).symm
    refine hothers _ false (by decide) ?_
    rw [listed, hreverse]
    rfl

end CommandLine

end SchemaDocs
