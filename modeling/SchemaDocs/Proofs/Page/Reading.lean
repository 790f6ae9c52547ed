/-
What the block of a type tells.

A block is written to be read by people, but nothing in it is ambiguous:
two types with the same block agree on everything that a block means to
show (`block_eq_iff_toldAlike`). What it does not show is what the
structure `ToldAlike` leaves out: whether fields belong to an object or
an input object, the order of fields, the layers around a field's type,
line breaks in descriptions that share their line, and blank
descriptions.

# How a block is read

From the front on, each piece ends at a character that it cannot hold:
a name in bold at an asterisk, a name in code at a backtick, and what is
kept on one line at a line feed. Names must not hold these marks, or
else a name would end early; line breaks in names do no harm. The text
in a description is free. In a table its pipes are escaped, which loses
nothing, and the description of a scalar is the last piece of its block.

The rows of a table of fields stand in the order of their texts, so the
block tells the fields up to their order.
-/
import SchemaDocs.Proofs.Page.Told
import SchemaDocs.Proofs.Text.Delimited

namespace SchemaDocs

open Text (eq_of_append_stop map_eq_of_flatMap_eq)

-- ========================================================== plain names

/-- A name that ends neither its code span nor its bold. -/
def isPlain (name : String) : Bool :=
  name.toList.all fun c => c ≠ '`' && c ≠ '*'

/-- The names that a block of the type shows. -/
def TypeDef.shownNames (type : TypeDef) : List String :=
  type.name
    :: type.fields.flatMap (fun field => [field.name, Table.shownType field])
    ++ type.values.map EnumValue.name ++ type.members

theorem backtick_not_mem_of_isPlain {name : String} (h : isPlain name = true) :
    '`' ∉ name.toList := by
  intro hmem
  have := List.all_eq_true.mp h _ hmem
  simp at this

theorem asterisk_not_mem_of_isPlain {name : String} (h : isPlain name = true) :
    '*' ∉ name.toList := by
  intro hmem
  have := List.all_eq_true.mp h _ hmem
  simp at this

namespace Page

variable {types : List TypeDef} {base : PageBase} {t u : TypeDef}
  {r s : List Char}

-- =============================================================== headers

/-- A header with the blank line behind it tells the name and the
description that it holds. -/
theorem header_tells (ht : isPlain t.name = true) (hu : isPlain u.name = true)
    (h : (header t ++ "\n\n").toList ++ r = (header u ++ "\n\n").toList ++ s) :
    t.name = u.name ∧ headline t = headline u ∧ r = s := by
  rw [header_eq, header_eq] at h
  simp only [String.toList_append, List.append_assoc,
    List.append_cancel_left_eq] at h
  obtain ⟨hname, h⟩ := eq_of_append_stop (c := '*') (by simp)
    (asterisk_not_mem_of_isPlain ht) (asterisk_not_mem_of_isPlain hu) h
  refine ⟨String.toList_inj.mp hname, ?_⟩
  cases htl : headline t with
  | none =>
      cases hul : headline u with
      | none => simpa [htl, hul] using h
      | some line => simp [htl, hul] at h
  | some line =>
      cases hul : headline u with
      | none => simp [htl, hul] at h
      | some line' =>
          have hline : line.toList ++ ("*\n\n".toList ++ r)
              = line'.toList ++ ("*\n\n".toList ++ s) := by
            simpa [htl, hul] using h
          obtain ⟨hline, hrest⟩ := eq_of_append_stop (c := '\n') (by simp)
            (not_mem_headline (.inr rfl) htl) (not_mem_headline (.inr rfl) hul)
            hline
          exact ⟨by rw [String.toList_inj.mp hline], hrest⟩

-- ================================================================= rows

/-- A name in code ends at a backtick. -/
theorem name_tells {m n : String} {stop : List Char} (hstop : '`' ∈ stop)
    (hm : isPlain m = true) (hn : isPlain n = true)
    (h : m.toList ++ (stop ++ r) = n.toList ++ (stop ++ s)) :
    m = n ∧ r = s := by
  obtain ⟨hname, hrest⟩ := eq_of_append_stop hstop
    (backtick_not_mem_of_isPlain hm) (backtick_not_mem_of_isPlain hn) h
  exact ⟨String.toList_inj.mp hname, hrest⟩

/-- A link with text behind it tells the name it shows. -/
theorem markdown_tells {m n : String} (hm : isPlain m = true)
    (hn : isPlain n = true)
    (h : (linkTo types base m).markdown.toList ++ r
      = (linkTo types base n).markdown.toList ++ s) : m = n ∧ r = s := by
  have hname : m = n := by
    by_cases hmo : NamedOnce types m <;> by_cases hno : NamedOnce types n
    · rw [linkTo_of_namedOnce hmo, linkTo_of_namedOnce hno] at h
      simp only [Link.markdown, String.toList_append, List.append_assoc,
        List.append_cancel_left_eq] at h
      exact (name_tells (by simp) hm hn h).1
    · rw [linkTo_of_namedOnce hmo, linkTo_of_not_namedOnce hno] at h
      simp [Link.markdown] at h
    · rw [linkTo_of_not_namedOnce hmo, linkTo_of_namedOnce hno] at h
      simp [Link.markdown] at h
    · rw [linkTo_of_not_namedOnce hmo, linkTo_of_not_namedOnce hno] at h
      simp only [Link.markdown, String.toList_append, List.append_assoc,
        List.append_cancel_left_eq] at h
      exact (name_tells (by simp) hm hn h).1
  subst hname
  exact ⟨rfl, List.append_cancel_left h⟩

/-- A described row ends with its line, which holds the whole cell. -/
theorem cell_tells {a b : Option String}
    (h : (Text.cell a ++ " |\n").toList ++ r
      = (Text.cell b ++ " |\n").toList ++ s) :
    Text.singleLine (a.getD "") = Text.singleLine (b.getD "") ∧ r = s := by
  rw [String.toList_append, String.toList_append, List.append_assoc,
    List.append_assoc] at h
  obtain ⟨hcell, hrest⟩ := eq_of_append_stop (c := '\n') (by simp)
    (Text.lineFeed_not_mem_cell a) (Text.lineFeed_not_mem_cell b) h
  exact ⟨Text.singleLine_eq_of_cell_eq (String.toList_inj.mp hcell), hrest⟩

/-- The name that is shown for a field's type tells what the type refers
to, as what is referred to has a name. -/
theorem target_eq_of_shownType_eq {f g : Field}
    (h : Table.shownType f = Table.shownType g) :
    f.type.target = g.type.target := by
  unfold Table.shownType at h
  cases hf : f.type.target with
  | none =>
      cases hg : g.type.target with
      | none => rfl
      | some n =>
          rw [hf, hg] at h
          subst h
          exact absurd hg g.type.target_ne_empty
  | some m =>
      cases hg : g.type.target with
      | none =>
          rw [hf, hg] at h
          subst h
          exact absurd hf f.type.target_ne_empty
      | some n =>
          rw [hf, hg] at h
          exact congrArg some h

/-- The names in a field's row. -/
def FieldPlain (field : Field) : Prop :=
  isPlain field.name = true ∧ isPlain (Table.shownType field) = true

/-- The row of a field with text behind it tells the field. -/
theorem fieldRow_tells {f g : Field} (hf : FieldPlain f) (hg : FieldPlain g)
    (h : (Table.fieldRow types base true f).toList ++ r
      = (Table.fieldRow types base true g).toList ++ s) :
    f.told = g.told ∧ r = s := by
  simp only [Table.fieldRow, Table.row, if_true, String.toList_append,
    List.append_assoc, List.append_cancel_left_eq] at h
  obtain ⟨hname, h⟩ := name_tells (by simp) hf.1 hg.1 h
  obtain ⟨htype, h⟩ := markdown_tells hf.2 hg.2 h
  have hrow : (Text.cell f.description ++ " |\n").toList ++ r
      = (Text.cell g.description ++ " |\n").toList ++ s := by
    simpa using h
  obtain ⟨hdescription, hrest⟩ := cell_tells hrow
  refine ⟨?_, hrest⟩
  unfold Field.told
  rw [hname, target_eq_of_shownType_eq htype,
    hdescription]

/-- The row of an enum value with text behind it tells the value. -/
theorem valueRow_tells {v w : EnumValue} (hv : isPlain v.name = true)
    (hw : isPlain w.name = true)
    (h : (Table.valueRow true v).toList ++ r
      = (Table.valueRow true w).toList ++ s) :
    v.told = w.told ∧ r = s := by
  simp only [Table.valueRow, Table.row, if_true, String.toList_append,
    List.append_assoc, List.append_cancel_left_eq] at h
  have hcode : v.name.toList ++ ("` | ".toList
        ++ ((Text.cell v.description ++ " |\n").toList ++ r))
      = w.name.toList ++ ("` | ".toList
        ++ ((Text.cell w.description ++ " |\n").toList ++ s)) := by
    simpa using h
  obtain ⟨hname, h⟩ := name_tells (by simp) hv hw hcode
  obtain ⟨hdescription, hrest⟩ := cell_tells h
  refine ⟨?_, hrest⟩
  unfold EnumValue.told
  rw [hname, hdescription]

-- ================================================================ bodies

/-- What a table starts with. -/
def tableWord (keyword : String) : String := "| **`" ++ keyword ++ "`** "

/-- What the body of a type of that kind starts with. -/
def openingWord : Kind → String
  | .object | .inputObject => tableWord Table.Owner.type.keyword
  | .interface => tableWord Table.Owner.interface.keyword
  | .enum => tableWord "enum"
  | .union => "**`union`** `"
  | .scalar => "`"

theorem startsWith_tableWord (keyword name rest : String) :
    (tableWord keyword).toList
      <+: (Table.opening true keyword name ++ rest).toList := by
  simp [tableWord, Table.opening, Table.bareRow]

/-- A body starts with the word of its kind. -/
theorem startsWith_openingWord (type : TypeDef) :
    (openingWord type.kind).toList
      <+: (body types base true type).toList := by
  obtain ⟨name, description, members⟩ := type
  cases members with
  | object fields | inputObject fields | interface fields =>
      show (tableWord _).toList
        <+: (Table.ofFields types base true _ name fields).toList
      unfold Table.ofFields
      rw [String.append_assoc, String.append_assoc]
      exact startsWith_tableWord _ _ _
  | enum values => exact startsWith_tableWord _ _ _
  | union members =>
      show "**`union`** `".toList <+: (unionBody name members).toList
      unfold unionBody
      rw [String.append_assoc, String.append_assoc, String.append_assoc,
        String.toList_append]
      exact List.prefix_append _ _
  | scalar =>
      show "`".toList <+: (scalarBody name description).toList
      unfold scalarBody
      rw [String.append_assoc, String.append_assoc, String.append_assoc,
        String.toList_append]
      exact List.prefix_append _ _

/-- No word of a kind goes on as the word of a kind that looks different. -/
theorem shown_eq_of_openingWord {k l : Kind}
    (h : (openingWord k).toList <+: (openingWord l).toList
      ∨ (openingWord l).toList <+: (openingWord k).toList) :
    k.shown = l.shown := by
  revert h
  cases k <;> cases l <;> decide

/-- A body tells the kind that it shows. -/
theorem shown_eq_of_body_eq
    (h : body types base true t = body types base true u) :
    t.kind.shown = u.kind.shown := by
  have ht : (openingWord t.kind).toList
      <+: (body types base true u).toList := h ▸ startsWith_openingWord t
  exact shown_eq_of_openingWord
    (List.prefix_or_prefix_of_prefix ht (startsWith_openingWord u))

/-- The rows of a table of fields tell the fields up to their order. -/
theorem fields_told {owner : Table.Owner} {name : String}
    {fs gs : List Field} (hf : ∀ f ∈ fs, FieldPlain f)
    (hg : ∀ g ∈ gs, FieldPlain g)
    (h : Table.ofFields types base true owner name fs
      = Table.ofFields types base true owner name gs) :
    (fs.map Field.told).Perm (gs.map Field.told) := by
  unfold Table.ofFields at h
  rw [String.append_left_inj, String.append_right_inj] at h
  obtain ⟨fs', hfs, hfrows⟩ :=
    Text.exists_sorted_map (Table.fieldRow types base true) fs
  obtain ⟨gs', hgs, hgrows⟩ :=
    Text.exists_sorted_map (Table.fieldRow types base true) gs
  rw [hfrows, hgrows] at h
  have hchars := congrArg String.toList h
  rw [String.toList_join, String.toList_join, List.flatMap_map,
    List.flatMap_map] at hchars
  have htold : fs'.map Field.told = gs'.map Field.told :=
    map_eq_of_flatMap_eq fieldRow_tells
      (fun _ => by simp [Table.fieldRow, Table.row])
      (fun f hmem => hf f (hfs.mem_iff.mp hmem))
      (fun g hmem => hg g (hgs.mem_iff.mp hmem)) hchars
  have hgs' : (fs'.map Field.told).Perm (gs.map Field.told) :=
    htold ▸ hgs.map _
  exact (hfs.map _).symm.trans hgs'

/-- The rows of an enum tell its values. -/
theorem values_told {name : String} {vs ws : List EnumValue}
    (hv : ∀ v ∈ vs, isPlain v.name = true)
    (hw : ∀ w ∈ ws, isPlain w.name = true)
    (h : Table.ofValues true name vs = Table.ofValues true name ws) :
    vs.map EnumValue.told = ws.map EnumValue.told := by
  unfold Table.ofValues Table.valueRows at h
  rw [String.append_right_inj, String.append_left_inj,
    String.append_right_inj] at h
  have hchars := congrArg String.toList h
  rw [String.toList_join, String.toList_join, List.flatMap_map,
    List.flatMap_map] at hchars
  exact map_eq_of_flatMap_eq valueRow_tells
    (fun _ => by simp [Table.valueRow, Table.row]) hv hw hchars

/-- Texts with a separator between them: each one but the first comes
with the separator in front. -/
private theorem intercalate_cons (separator first : List Char)
    (rest : List (List Char)) :
    separator.intercalate (first :: rest)
      = first ++ rest.flatMap (separator ++ ·) := by
  induction rest generalizing first with
  | nil => simp
  | cons second rest ih =>
      rw [List.intercalate_cons_cons, ih, List.flatMap_cons,
        List.append_assoc, List.append_assoc]

/-- A member of a union but the first, as it stands in the line. -/
private def laterMember (member : String) : List Char :=
  " | `".toList ++ member.toList ++ ['`']

/-- The line of a union behind its name. -/
private theorem unionBody_toList (name : String) (members : List String) :
    (unionBody name members).toList = "**`union`** `".toList ++ name.toList
      ++ ['`']
      ++ (match members with
          | [] => []
          | first :: rest => " = `".toList ++ first.toList ++ ['`']
              ++ rest.flatMap laterMember)
      ++ ['\n'] := by
  cases members with
  | nil =>
      unfold unionBody
      simp only [List.isEmpty_nil, if_true, String.append_empty,
        String.toList_append, List.append_nil]
      rfl
  | cons first rest =>
      unfold unionBody
      simp [String.toList_intercalate, intercalate_cons, List.flatMap_map,
        Function.comp_def]
      rfl

/-- A later member with text behind it tells its name. -/
private theorem laterMember_tells {m n : String} (hm : isPlain m = true)
    (hn : isPlain n = true)
    (h : laterMember m ++ r = laterMember n ++ s) : id m = id n ∧ r = s := by
  unfold laterMember at h
  simp only [List.append_assoc, List.append_cancel_left_eq] at h
  exact name_tells (by simp) hm hn h

/-- The line of a union tells its members. -/
theorem members_told {name : String} {ms ns : List String}
    (hm : ∀ m ∈ ms, isPlain m = true) (hn : ∀ n ∈ ns, isPlain n = true)
    (h : unionBody name ms = unionBody name ns) : ms = ns := by
  have hchars := congrArg String.toList h
  rw [unionBody_toList, unionBody_toList] at hchars
  cases ms with
  | nil =>
      cases ns with
      | nil => rfl
      | cons n ns => simp at hchars
  | cons m ms =>
      cases ns with
      | nil => simp at hchars
      | cons n ns =>
          have hfirst : m.toList
            ++ (['`'] ++ (ms.flatMap laterMember ++ ['\n']))
              = n.toList ++ (['`'] ++ (ns.flatMap laterMember ++ ['\n'])) := by
            simpa using hchars
          obtain ⟨hmn, hlater⟩ := name_tells (by simp)
            (hm m List.mem_cons_self) (hn n List.mem_cons_self) hfirst
          have htold : ms.map id = ns.map id :=
            map_eq_of_flatMap_eq laterMember_tells
              (fun _ => by
                unfold laterMember
                simp)
              (fun x hx => hm x (by simp [hx]))
              (fun x hx => hn x (by simp [hx]))
              (List.append_cancel_right hlater)
          rw [List.map_id, List.map_id] at htold
          rw [hmn, htold]

/-- The line of a scalar tells its description as it was given. -/
theorem scalarBody_told {name : String} {d e : Option String}
    (h : scalarBody name d = scalarBody name e) :
    readable d = readable e := by
  unfold scalarBody at h
  rw [String.append_left_inj, String.append_right_inj] at h
  cases hd : readable d with
  | none =>
      cases he : readable e with
      | none => rfl
      | some text =>
          have := congrArg String.toList h
          simp [hd, he] at this
  | some text =>
      cases he : readable e with
      | none =>
          have := congrArg String.toList h
          simp [hd, he] at this
      | some text' =>
          simp only [hd, he, String.append_right_inj] at h
          rw [h]

-- ================================================================ blocks

/-- The names of the parts of a plain type are plain. -/
theorem parts_plain {type : TypeDef}
    (h : ∀ name ∈ type.shownNames, isPlain name = true) :
    isPlain type.name = true ∧ (∀ f ∈ type.fields, FieldPlain f)
      ∧ (∀ v ∈ type.values, isPlain v.name = true)
      ∧ ∀ m ∈ type.members, isPlain m = true := by
  unfold TypeDef.shownNames at h
  simp only [List.mem_append, List.mem_cons, List.mem_flatMap,
    List.mem_map] at h
  refine ⟨h _ (by simp), fun f hf => ⟨h _ ?_, h _ ?_⟩,
    fun v hv => h _ ?_, fun m hm => h _ ?_⟩
  · exact Or.inl (Or.inl (Or.inr ⟨f, hf, by simp⟩))
  · exact Or.inl (Or.inl (Or.inr ⟨f, hf, by simp⟩))
  · exact Or.inl (Or.inr ⟨v, hv, rfl⟩)
  · exact Or.inr hm

/-- Bodies of the same name tell the fields, the values and the members. -/
theorem body_tells (hname : t.name = u.name)
    (ht : ∀ name ∈ t.shownNames, isPlain name = true)
    (hu : ∀ name ∈ u.shownNames, isPlain name = true)
    (h : body types base true t = body types base true u) :
    (t.fields.map Field.told).Perm (u.fields.map Field.told)
      ∧ t.values.map EnumValue.told = u.values.map EnumValue.told
      ∧ t.members = u.members := by
  have hkind := shown_eq_of_body_eq h
  have howner := Kind.owner?_congr hkind
  obtain ⟨-, htf, htv, htm⟩ := parts_plain ht
  obtain ⟨-, huf, huv, hum⟩ := parts_plain hu
  refine ⟨?_, ?_, ?_⟩
  · cases ho : t.kind.owner? with
    | none =>
        rw [TypeDef.fields_of_owner_none ho,
          TypeDef.fields_of_owner_none (howner ▸ ho)]
    | some owner =>
        rw [body_of_owner ho, body_of_owner (howner ▸ ho), hname] at h
        exact fields_told htf huf h
  · have henum := Kind.eq_iff_of_shown_eq hkind (m := .enum) rfl
    by_cases he : t.kind = .enum
    · rw [body_of_enum he, body_of_enum (henum.mp he), hname] at h
      exact values_told htv huv h
    · rw [TypeDef.values_of_ne_enum he,
        TypeDef.values_of_ne_enum ((not_congr henum).mp he)]
  · have hunion := Kind.eq_iff_of_shown_eq hkind (m := .union) rfl
    by_cases hn : t.kind = .union
    · rw [body_of_union hn, body_of_union (hunion.mp hn), hname] at h
      exact members_told htm hum h
    · rw [TypeDef.members_of_ne_union hn,
        TypeDef.members_of_ne_union ((not_congr hunion).mp hn)]

/-- Header and body together tell the description: the header of a type
that is no scalar holds it, and the body of a scalar. -/
theorem description_tells (hname : t.name = u.name)
    (hline : headline t = headline u)
    (h : body types base true t = body types base true u) :
    t.toldDescription = u.toldDescription := by
  have hscalar := Kind.eq_iff_of_shown_eq (shown_eq_of_body_eq h)
    (m := .scalar) rfl
  by_cases ht : t.kind = .scalar
  · have hu := hscalar.mp ht
    rw [body_of_scalar ht, body_of_scalar hu, hname] at h
    rw [← readable_eq_toldDescription ht, ← readable_eq_toldDescription hu,
      scalarBody_told h]
  · have hu := (not_congr hscalar).mp ht
    unfold headline at hline
    rwa [if_neg ht, if_neg hu] at hline

/-- Types with the same block are told alike. -/
theorem toldAlike_of_block_eq
    (ht : ∀ name ∈ t.shownNames, isPlain name = true)
    (hu : ∀ name ∈ u.shownNames, isPlain name = true)
    (h : block types base { header := true, descriptions := true } t
      = block types base { header := true, descriptions := true } u) :
    ToldAlike t u := by
  have hchars : (header t ++ "\n\n").toList ++ (body types base true t).toList
      = (header u ++ "\n\n").toList ++ (body types base true u).toList := by
    rw [← String.toList_append, ← String.toList_append]
    exact congrArg String.toList h
  obtain ⟨hname, hline, hrest⟩ :=
    header_tells (parts_plain ht).1 (parts_plain hu).1 hchars
  have hbody := String.toList_inj.mp hrest
  obtain ⟨hfields, hvalues, hmembers⟩ := body_tells hname ht hu hbody
  exact {
    name := hname
    kind := shown_eq_of_body_eq hbody
    description := description_tells hname hline hbody
    fields := hfields
    values := hvalues
    members := hmembers }

/-- Nothing that a block means to show is lost, and it shows nothing
else: in the page of any schema and site, two types with plain names have
the same block exactly if they agree on all that a block tells. -/
theorem block_eq_iff_toldAlike (types : List TypeDef) (base : PageBase)
    (t u : TypeDef)
    (ht : ∀ name ∈ t.shownNames, isPlain name = true)
    (hu : ∀ name ∈ u.shownNames, isPlain name = true) :
    block types base { header := true, descriptions := true } t
        = block types base { header := true, descriptions := true } u
      ↔ ToldAlike t u :=
  ⟨toldAlike_of_block_eq ht hu,
    fun h => block_eq_of_toldAlike h Iff.rfl fun _ _ => Iff.rfl⟩

/-- An object with a description of two lines. -/
def pet : TypeDef where
  name := "Pet"
  description := some "Kept\r\nat home"
  body := .object [⟨"owner", some "a | b", .nonNull (.named "Person")⟩,
    ⟨"id", none, .named "ID"⟩]

/-- An input object that is told like `pet`. -/
def petInput : TypeDef where
  name := "Pet"
  description := some "Kept at home"
  body := .inputObject [⟨"id", some "", .nonNull (.named "ID")⟩,
    ⟨"owner", some "a | b", .list (.nonNull (.named "Person"))⟩]

/-- On a site that links one of the names in them, the two have one
block, and a pet with a pipe in its description has another. -/
theorem block_eq_iff_toldAlike_pet :
    block [⟨"ID", none, .scalar⟩] .standard
        { header := true, descriptions := true } pet
      = block [⟨"ID", none, .scalar⟩] .standard
        { header := true, descriptions := true } petInput
    ∧ block [⟨"ID", none, .scalar⟩] .standard
        { header := true, descriptions := true } pet
      ≠ block [⟨"ID", none, .scalar⟩] .standard
        { header := true, descriptions := true }
        { pet with description := some "Kept | at home" } := by
  constructor
  · refine (block_eq_iff_toldAlike _ _ pet petInput (by decide +kernel)
      (by decide +kernel)).mpr ?_
    exact {
      name := rfl
      kind := rfl
      description := by decide +kernel
      fields := by decide +kernel
      values := rfl
      members := rfl }
  · intro h
    have htold := (block_eq_iff_toldAlike _ _ pet
      { pet with description := some "Kept | at home" } (by decide +kernel)
      (by decide +kernel)).mp h
    exact absurd htold.description (by decide +kernel)

end Page

end SchemaDocs
