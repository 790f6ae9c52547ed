/-
Following links.

A page links a name when exactly one type has it, and the page that a
link leads to is found by looking the name up once more. These are two
separate lookups, and this file says that they agree: whoever follows
links from a page never comes to a name without a page, and every page
reached by a link is about one type (`links_lead_to_pages`).

# What a link is

A description may hold any markdown, links of its own included, so the
links of a page cannot be read off its text. They are listed from the
types instead (`links`): one in the opening row of a table of fields and
one in each of its rows. Two facts tie the list to the text. Each link
of the list stands in the page where it should, and nothing else in a
block depends on the schema or the site (`block_congr_of_links`), so that
no link can have been left out.

# Runs

A run is a list of names, each of which is linked from the page of the
one before (`LinksTo`). A link is followed by its address; an address
asks for one name only (`pageUrl_injective`). One step lands on a name
that exactly one type has (`linksTo_iff`), which is more than the next
step needs.
-/
import SchemaDocs.Proofs.Page.Locality
import SchemaDocs.Proofs.Text.Within

namespace SchemaDocs

namespace Page

variable {types others : List TypeDef} {base site : PageBase}
  {options : PageOptions} {descriptions : Bool} {type : TypeDef}
  {name : String}

-- ========================================================= texts of links

/-- A name with the address of its page. -/
def linkedText (base : PageBase) (name : String) : String :=
  "[`" ++ name ++ "`](" ++ base.text ++ "/?page=printType:" ++ name ++ ")"

/-- A name without an address. -/
def plainText (name : String) : String := "`" ++ name ++ "`"

/-- The two are told apart by their first character. -/
theorem linkedText_ne_plainText (base : PageBase) (name : String) :
    linkedText base name ≠ plainText name := by
  intro h
  have hchars := congrArg String.toList h
  simp [linkedText, plainText] at hchars

/-- A name that one type has is shown with its link. -/
theorem markdown_of_namedOnce (h : NamedOnce types name) :
    (linkTo types base name).markdown = linkedText base name := by
  rw [linkTo_of_namedOnce h]
  simp only [Link.markdown, PageBase.pageUrl, linkedText,
    String.append_assoc]

/-- Any other name is shown without one. -/
theorem markdown_of_not_namedOnce (h : ¬ NamedOnce types name) :
    (linkTo types base name).markdown = plainText name := by
  rw [linkTo_of_not_namedOnce h]
  rfl

/-- A name is shown with its address exactly when one type has it. -/
theorem markdown_eq_linkedText_iff :
    (linkTo types base name).markdown = linkedText base name
      ↔ NamedOnce types name := by
  refine ⟨fun h => ?_, markdown_of_namedOnce⟩
  by_contra hnot
  rw [markdown_of_not_namedOnce hnot] at h
  exact linkedText_ne_plainText base name h.symm

/-- And without it when none or several have. -/
theorem markdown_eq_plainText_iff :
    (linkTo types base name).markdown = plainText name
      ↔ ¬ NamedOnce types name := by
  refine ⟨fun h hone => ?_, markdown_of_not_namedOnce⟩
  rw [markdown_of_namedOnce hone] at h
  exact linkedText_ne_plainText base name h

-- ================================================================= rows

/-- The row of a field, with `shown` for its type. -/
def rowShowing (descriptions : Bool) (field : Field) (shown : String) :
    String :=
  Table.row descriptions
    (Table.indent ++ "`" ++ field.name ++ ":` " ++ shown) field.description

theorem rowShowing_inj {field : Field} {shown other : String} :
    rowShowing descriptions field shown = rowShowing descriptions field other
      ↔ shown = other := by
  refine ⟨fun h => ?_, congrArg _⟩
  unfold rowShowing Table.row at h
  rw [String.append_left_inj, String.append_right_inj,
    String.append_right_inj] at h
  exact h

theorem opening_inj {keyword shown other : String} :
    Table.opening descriptions keyword shown
        = Table.opening descriptions keyword other
      ↔ shown = other := by
  refine ⟨fun h => ?_, congrArg _⟩
  unfold Table.opening Table.bareRow at h
  rw [String.append_left_inj, String.append_right_inj,
    String.append_left_inj, String.append_right_inj] at h
  exact h

/-- The opening row of the table of a type's fields. -/
def ownerRow (types : List TypeDef) (base : PageBase) (descriptions : Bool)
    (owner : Table.Owner) (type : TypeDef) : String :=
  Table.opening descriptions owner.keyword
    (linkTo types base type.name).markdown

/-- A row links its type exactly if one type has that name. -/
theorem fieldRow_eq_linked_iff {field : Field} :
    Table.fieldRow types base descriptions field
        = rowShowing descriptions field
            (linkedText base (Table.shownType field))
      ↔ NamedOnce types (Table.shownType field) :=
  rowShowing_inj.trans markdown_eq_linkedText_iff

theorem fieldRow_eq_plain_iff {field : Field} :
    Table.fieldRow types base descriptions field
        = rowShowing descriptions field (plainText (Table.shownType field))
      ↔ ¬ NamedOnce types (Table.shownType field) :=
  rowShowing_inj.trans markdown_eq_plainText_iff

/-- The headings link their type under the same condition. -/
theorem ownerRow_eq_linked_iff {owner : Table.Owner} :
    ownerRow types base descriptions owner type
        = Table.opening descriptions owner.keyword (linkedText base type.name)
      ↔ NamedOnce types type.name :=
  opening_inj.trans markdown_eq_linkedText_iff

theorem ownerRow_eq_plain_iff {owner : Table.Owner} :
    ownerRow types base descriptions owner type
        = Table.opening descriptions owner.keyword (plainText type.name)
      ↔ ¬ NamedOnce types type.name :=
  opening_inj.trans markdown_eq_plainText_iff

-- ================================================================ links

/-- The names in a type's table of fields: its own, and for each field
the one that the field refers to. -/
def tabled (type : TypeDef) : List String :=
  match type.kind.owner? with
  | some _ => type.name :: type.fields.map Table.shownType
  | none => []

/-- The links of a type's block. -/
def links (types : List TypeDef) (base : PageBase) (type : TypeDef) :
    List Link :=
  (tabled type).map (linkTo types base)

/-- A type without a table of fields links to nothing. -/
theorem links_of_owner_none (h : type.kind.owner? = none) :
    links types base type = [] := by
  unfold links tabled
  rw [h]
  rfl

/-- Apart from its links a block takes nothing from the schema and the
site: where two give it the same links, they give it the same text. -/
theorem block_congr_of_links
    (h : links others site type = links types base type) :
    block others site options type = block types base options type := by
  have hbody : body others site options.descriptions type
      = body types base options.descriptions type := by
    rcases type.kind.layout with ⟨owner, ho⟩ | hk | hk | hk
    · unfold links tabled at h
      rw [ho] at h
      have hlinks := List.map_inj_left.mp h
      have howner := hlinks type.name List.mem_cons_self
      have hrows : ∀ field ∈ type.fields,
          Table.fieldRow others site options.descriptions field
            = Table.fieldRow types base options.descriptions field := by
        intro field hf
        unfold Table.fieldRow
        rw [hlinks _ (List.mem_cons_of_mem _ (List.mem_map_of_mem hf))]
      rw [body_of_owner ho, body_of_owner ho]
      unfold Table.ofFields
      rw [howner, List.map_congr_left hrows]
    · rw [body_of_union hk, body_of_union hk]
    · rw [body_of_enum hk, body_of_enum hk]
    · rw [body_of_scalar hk, body_of_scalar hk]
  unfold block
  rw [hbody]

-- ======================================================= where links stand

/-- The page of a name holds the block of each type of that name. -/
theorem holds_block {page : String}
    (h : render types base options name = .ok page)
    (hmem : type ∈ typesNamed types name) :
    Holds page (block types base options type) := by
  unfold render at h
  split at h
  · cases h
  · rw [← Except.ok.inj h]
    exact holds_join_sorted (List.mem_map_of_mem hmem)

theorem holds_of_holds_body {piece : String}
    (h : Holds (body types base options.descriptions type) piece) :
    Holds (block types base options type) piece := by
  unfold block
  split
  · exact h.append_left _
  · exact h

/-- The opening row stands in the block of a type with fields. -/
theorem holds_ownerRow {owner : Table.Owner}
    (ho : type.kind.owner? = some owner) :
    Holds (block types base options type)
      (ownerRow types base options.descriptions owner type) := by
  refine holds_of_holds_body ?_
  rw [body_of_owner ho]
  unfold Table.ofFields
  rw [String.append_assoc, String.append_assoc]
  exact (Holds.refl _).append_right _

/-- The row of each field stands in the block of its type. -/
theorem holds_fieldRow {field : Field} (h : field ∈ type.fields) :
    Holds (block types base options type)
      (Table.fieldRow types base options.descriptions field) := by
  cases ho : type.kind.owner? with
  | none =>
      rw [TypeDef.fields_of_owner_none ho] at h
      cases h
  | some owner =>
      refine holds_of_holds_body ?_
      rw [body_of_owner ho]
      exact ((holds_join_sorted (List.mem_map_of_mem h)).append_left
        _).append_right _

/-- A member stands in the block of its union, as plain code. -/
theorem holds_member {member : String} (h : member ∈ type.members) :
    Holds (block types base options type) (plainText member) := by
  by_cases hk : type.kind = .union
  · refine holds_of_holds_body ?_
    rw [body_of_union hk]
    have hne : type.members.isEmpty = false :=
      List.isEmpty_eq_false_iff_exists_mem.mpr ⟨member, h⟩
    unfold unionBody
    rw [hne]
    exact (((holds_intercalate (List.mem_map_of_mem h) _).append_left
      _).append_left _).append_right _
  · rw [TypeDef.members_of_ne_union hk] at h
    cases h

/-- The row of each value stands in the block of its enum. -/
theorem holds_valueRow {value : EnumValue} (h : value ∈ type.values) :
    Holds (block types base options type)
      (Table.valueRow options.descriptions value) := by
  by_cases hk : type.kind = .enum
  · refine holds_of_holds_body ?_
    rw [body_of_enum hk]
    exact (((holds_join (List.mem_map_of_mem h)).append_left
      _).append_right _).append_left _
  · rw [TypeDef.values_of_ne_enum hk] at h
    cases h

/-- How the names in the block of a type are linked. -/
structure LinksRightly (types : List TypeDef) (base : PageBase)
    (options : PageOptions) (type : TypeDef) : Prop where
  /-- A table of fields has an opening row. It links the type's own name
  if no other type has it, and shows it alone if another has. -/
  owner : ∀ owner, type.kind.owner? = some owner →
    Holds (block types base options type)
        (ownerRow types base options.descriptions owner type)
      ∧ (ownerRow types base options.descriptions owner type
          = Table.opening options.descriptions owner.keyword
              (linkedText base type.name)
        ↔ NamedOnce types type.name)
      ∧ (ownerRow types base options.descriptions owner type
          = Table.opening options.descriptions owner.keyword
              (plainText type.name)
        ↔ ¬ NamedOnce types type.name)
  /-- Each field has a row. It links the name that the field refers to if
  one type has it, and shows it alone if none or several have. -/
  field : ∀ field ∈ type.fields,
    Holds (block types base options type)
        (Table.fieldRow types base options.descriptions field)
      ∧ (Table.fieldRow types base options.descriptions field
          = rowShowing options.descriptions field
              (linkedText base (Table.shownType field))
        ↔ NamedOnce types (Table.shownType field))
      ∧ (Table.fieldRow types base options.descriptions field
          = rowShowing options.descriptions field
              (plainText (Table.shownType field))
        ↔ ¬ NamedOnce types (Table.shownType field))
  /-- The members of a union are shown alone. -/
  member : ∀ member ∈ type.members,
    Holds (block types base options type) (plainText member)
  /-- Each value of an enum has a row, in which nothing is linked. -/
  value : ∀ value ∈ type.values,
    Holds (block types base options type)
      (Table.valueRow options.descriptions value)
  /-- Nothing else is linked: a schema and a site that give the block the
  same links leave no other mark on it. -/
  rest : ∀ others site, links others site type = links types base type →
    block others site options type = block types base options type
  /-- So no schema and no site leave a mark on a block without a table of
  fields. -/
  unlinked : type.kind.owner? = none → ∀ others site,
    block others site options type = block types base options type

/-- In every block names are linked as they should be. -/
theorem linksRightly (types : List TypeDef) (base : PageBase)
    (options : PageOptions) (type : TypeDef) :
    LinksRightly types base options type where
  owner _ ho :=
    ⟨holds_ownerRow ho, ownerRow_eq_linked_iff, ownerRow_eq_plain_iff⟩
  field _ hf :=
    ⟨holds_fieldRow hf, fieldRow_eq_linked_iff, fieldRow_eq_plain_iff⟩
  member _ hm := holds_member hm
  value _ hv := holds_valueRow hv
  rest _ _ hlinks := block_congr_of_links hlinks
  unlinked ho _ _ :=
    block_congr_of_links
      ((links_of_owner_none ho).trans (links_of_owner_none ho).symm)

-- ======================================================= following links

/-- An address asks for the page of one name only. -/
theorem pageUrl_injective {other : String}
    (h : base.pageUrl name = base.pageUrl other) : name = other :=
  (String.append_right_inj _).mp h

/-- The page of one name holds a link whose address is the page of the
other. -/
def LinksTo (types : List TypeDef) (base : PageBase) (page next : String) :
    Prop :=
  ∃ type ∈ typesNamed types page, ∃ link ∈ links types base type,
    link.url? = some (base.pageUrl next)

/-- A link that has an address is to the one type of its name. -/
theorem url_eq_iff {next : String} :
    (linkTo types base name).url? = some (base.pageUrl next)
      ↔ name = next ∧ NamedOnce types next := by
  by_cases hone : NamedOnce types name
  · rw [linkTo_of_namedOnce hone]
    constructor
    · intro h
      have hname := pageUrl_injective (Option.some.inj h)
      exact ⟨hname, hname ▸ hone⟩
    · rintro ⟨rfl, -⟩
      rfl
  · rw [linkTo_of_not_namedOnce hone]
    constructor
    · intro h
      cases h
    · rintro ⟨rfl, hnext⟩
      exact absurd hnext hone

/-- Nothing but the one type of a name is linked. -/
theorem url_eq_none_iff :
    (linkTo types base name).url? = none ↔ ¬ NamedOnce types name := by
  by_cases hone : NamedOnce types name
  · rw [linkTo_of_namedOnce hone]
    exact iff_of_false (Option.some_ne_none _) (not_not_intro hone)
  · rw [linkTo_of_not_namedOnce hone]
    exact iff_of_true rfl hone

/-- The links of a page lead to those names in its tables that exactly
one type has, and to all of them. -/
theorem linksTo_iff {page next : String} :
    LinksTo types base page next
      ↔ NamedOnce types next
        ∧ ∃ type ∈ typesNamed types page, next ∈ tabled type := by
  constructor
  · rintro ⟨type, htype, link, hlink, hurl⟩
    obtain ⟨name, hname, rfl⟩ := List.mem_map.mp hlink
    obtain ⟨rfl, hone⟩ := url_eq_iff.mp hurl
    exact ⟨hone, type, htype, hname⟩
  · rintro ⟨hone, type, htype, hname⟩
    exact ⟨type, htype, linkTo types base next, List.mem_map_of_mem hname,
      url_eq_iff.mpr ⟨rfl, hone⟩⟩

/-- The page of a name is the block of the one type of that name. -/
def OneBlock (types : List TypeDef) (base : PageBase) (options : PageOptions)
    (name : String) : Prop :=
  ∃ type, typesNamed types name = [type]
    ∧ render types base options name = .ok (block types base options type)

/-- The page of one type is its block. -/
theorem render_of_typesNamed_eq (h : typesNamed types name = [type])
    (base : PageBase) (options : PageOptions) :
    render types base options name = .ok (block types base options type) := by
  unfold render
  rw [h]
  show Except.ok (String.join (Text.sorted [_])) = _
  rw [Text.sorted_singleton, String.join_cons, String.join_nil,
    String.append_empty]

/-- A name that one type has is shown on a page of one block. -/
theorem oneBlock_of_namedOnce (h : NamedOnce types name)
    (base : PageBase) (options : PageOptions) :
    OneBlock types base options name := by
  obtain ⟨type, htype⟩ := h
  exact ⟨type, htype, render_of_typesNamed_eq htype base options⟩

/-- Whether a name has a page is not a matter of what pages show. -/
theorem render_ok_of_render_ok {page : String}
    (h : render types base options name = .ok page) (other : PageOptions) :
    ∃ text, render types base other name = .ok text := by
  unfold render at h ⊢
  cases htypes : typesNamed types name with
  | nil =>
      rw [htypes] at h
      cases h
  | cons type rest => exact ⟨_, rfl⟩

/-- Whoever follows links lands on names that one type has. -/
theorem namedOnce_of_run {start : String} {visited : List String}
    (hrun : (start :: visited).IsChain (LinksTo types base)) :
    ∀ name ∈ visited, NamedOnce types name := by
  induction visited generalizing start with
  | nil =>
      intro name hname
      cases hname
  | cons next visited ih =>
      obtain ⟨hlink, hrest⟩ := List.isChain_cons_cons.mp hrun
      intro name hname
      rcases List.mem_cons.mp hname with rfl | hlater
      · exact (linksTo_iff.mp hlink).1
      · exact ih hrest name hlater

/-- Links never lead nowhere. From a name that has a page, every name in
a table of fields is linked exactly when one type has it, and nothing
else is linked; every link leads to a page of one block; and so does
every run of links, however long and whatever the pages show. -/
theorem links_lead_to_pages (types : List TypeDef) (base : PageBase)
    (options : PageOptions) (start page : String)
    (h : render types base options start = .ok page) :
    (∀ type ∈ typesNamed types start,
        Holds page (block types base options type)
          ∧ LinksRightly types base options type)
      ∧ (∀ next, LinksTo types base start next →
          ∀ other, OneBlock types base other next)
      ∧ ∀ visited, (start :: visited).IsChain (LinksTo types base) →
          ∀ other,
            (∀ name ∈ start :: visited,
              ∃ text, render types base other name = .ok text)
              ∧ ∀ name ∈ visited, OneBlock types base other name := by
  refine ⟨?_, ?_, ?_⟩
  · intro type htype
    exact ⟨holds_block h htype, linksRightly types base options type⟩
  · intro next hnext other
    exact oneBlock_of_namedOnce (linksTo_iff.mp hnext).1 base other
  · intro visited hrun other
    have hblocks : ∀ name ∈ visited, OneBlock types base other name :=
      fun name hname =>
        oneBlock_of_namedOnce (namedOnce_of_run hrun name hname) base other
    refine ⟨?_, hblocks⟩
    intro name hname
    rcases List.mem_cons.mp hname with rfl | hvisited
    · exact render_ok_of_render_ok h other
    · obtain ⟨type, -, hpage⟩ := hblocks name hvisited
      exact ⟨_, hpage⟩

/-- Two types that refer to each other, one of them to itself as well,
and two of one name. -/
def household : List TypeDef :=
  [⟨"Person", none, .object [⟨"friend", none, .named "Person"⟩,
      ⟨"pets", none, .list (.nonNull (.named "Pet"))⟩,
      ⟨"home", none, .named "Place"⟩]⟩,
    ⟨"Pet", none, .interface [⟨"owner", none, .named "Person"⟩]⟩,
    ⟨"Place", none, .union ["Person"]⟩,
    ⟨"Place", none, .enum [⟨"ABROAD", none⟩]⟩]

/-- A run around the household stays on pages of one block. The two
places, to which nothing leads, share a page. -/
theorem links_lead_to_pages_household :
    (∃ page, render household .standard {} "Person" = .ok page)
      ∧ ["Person", "Person", "Pet", "Person"].IsChain
          (LinksTo household .standard)
      ∧ ¬ LinksTo household .standard "Person" "Place"
      ∧ (∀ name ∈ ["Person", "Pet", "Person"],
          OneBlock household .standard { header := false } name)
      ∧ ∃ page, render household .standard {} "Place" = .ok page := by
  have hperson : render household .standard {} "Person" = .ok _ := rfl
  have hplace : render household .standard {} "Place" = .ok _ := rfl
  have hlink : ∀ page next, NamedOnce household next →
      next ∈ (typesNamed household page).flatMap tabled →
      LinksTo household .standard page next := by
    intro page next hone hmem
    exact linksTo_iff.mpr ⟨hone, List.mem_flatMap.mp hmem⟩
  have hrun : ["Person", "Person", "Pet", "Person"].IsChain
      (LinksTo household .standard) :=
    .cons_cons (hlink _ _ ⟨_, rfl⟩ (by decide +kernel))
      (.cons_cons (hlink _ _ ⟨_, rfl⟩ (by decide +kernel))
        (.cons_cons (hlink _ _ ⟨_, rfl⟩ (by decide +kernel))
          (.singleton _)))
  refine ⟨⟨_, hperson⟩, hrun, ?_, ?_, ⟨_, hplace⟩⟩
  · intro h
    obtain ⟨type, htype⟩ := (linksTo_iff.mp h).1
    have hcount : (typesNamed household "Place").length ≠ 1 := by
      decide +kernel
    exact hcount (congrArg List.length htype)
  · exact ((links_lead_to_pages household .standard {} "Person" _
      hperson).2.2 _ hrun { header := false }).2

end Page

end SchemaDocs
