/-
What a page depends on.

The page of a name is made from the types of that name. Of the rest of
the schema it takes only the answer to one question, asked of each name
that a field of these types refers to: is there exactly one type of that
name? Two schemas that hold the same types of a name, and give the same
answers, have the same page for it (`render_eq_of_alike`).

The same types are those that differ at most in what no page shows
(`TypeDef.Alike`): the order of their fields, and the layers and kinds of
their fields' references as long as these refer to the same name. The
order of the types themselves does not matter either.

# How the proof goes

There are two orders to forget, that of the rows in a table and that of
the blocks on a page, and sorting forgets both in the same way. Types
that are alike are told alike, which settles the rows; the blocks are
settled here (`render_eq_of_blocks`).
-/
import Mathlib.Data.List.Forall2
import SchemaDocs.Proofs.Page.Told

namespace SchemaDocs

-- ================================================================ alike

/-- The one list holds what the other holds, up to the order and to what
`R` does not tell apart. -/
def Reordered {α : Type} (R : α → α → Prop) (l m : List α) : Prop :=
  ∃ between, l.Perm between ∧ List.Forall₂ R between m

/-- Two fields differ at most in the layers around their type's name. -/
structure Field.Alike (f g : Field) : Prop where
  name : f.name = g.name
  description : f.description = g.description
  target : f.type.target = g.type.target

/-- Two bodies of one kind differ at most in the order of their fields
and the layers in these. -/
inductive Body.Alike : Body → Body → Prop
  | object {fs gs : List Field} (h : Reordered Field.Alike fs gs) :
      Body.Alike (.object fs) (.object gs)
  | inputObject {fs gs : List Field} (h : Reordered Field.Alike fs gs) :
      Body.Alike (.inputObject fs) (.inputObject gs)
  | interface {fs gs : List Field} (h : Reordered Field.Alike fs gs) :
      Body.Alike (.interface fs) (.interface gs)
  | union (members : List String) :
      Body.Alike (.union members) (.union members)
  | enum (values : List EnumValue) : Body.Alike (.enum values) (.enum values)
  | scalar : Body.Alike .scalar .scalar

/-- Two types differ at most in what no page shows. -/
structure TypeDef.Alike (t u : TypeDef) : Prop where
  name : t.name = u.name
  description : t.description = u.description
  body : t.body.Alike u.body

/-- Lists that agree item by item on what two functions make of them. -/
theorem map_eq_of_forall₂ {α β γ : Type} {R : α → β → Prop} {f : α → γ}
    {g : β → γ} {l : List α} {m : List β} (h : List.Forall₂ R l m)
    (hfg : ∀ a ∈ l, ∀ b, R a b → f a = g b) : l.map f = m.map g := by
  induction h with
  | nil => rfl
  | cons hab _ ih =>
      rw [List.map_cons, List.map_cons, hfg _ List.mem_cons_self _ hab,
        ih fun a ha => hfg a (List.mem_cons_of_mem _ ha)]

theorem Field.Alike.told {f g : Field} (h : f.Alike g) : f.told = g.told := by
  unfold Field.told
  rw [h.name, h.description, h.target]

/-- Fields in another order tell the same in another order. -/
theorem Reordered.told {fs gs : List Field} (h : Reordered Field.Alike fs gs) :
    (fs.map Field.told).Perm (gs.map Field.told) := by
  obtain ⟨between, hperm, halike⟩ := h
  rw [← map_eq_of_forall₂ halike fun _ _ _ hfg => hfg.told]
  exact hperm.map _

/-- Types that are alike are told alike. -/
theorem TypeDef.Alike.toldAlike {t u : TypeDef} (h : t.Alike u) :
    ToldAlike t u := by
  obtain ⟨name, description, tbody⟩ := t
  obtain ⟨name', description', ubody⟩ := u
  obtain ⟨hname, hdescription, hbody⟩ := h
  cases hname
  cases hdescription
  cases hbody with
  | object h => exact ⟨rfl, rfl, rfl, h.told, rfl, rfl⟩
  | inputObject h => exact ⟨rfl, rfl, rfl, h.told, rfl, rfl⟩
  | interface h => exact ⟨rfl, rfl, rfl, h.told, rfl, rfl⟩
  | union members => exact ⟨rfl, rfl, rfl, .nil, rfl, rfl⟩
  | enum values => exact ⟨rfl, rfl, rfl, .nil, rfl, rfl⟩
  | scalar => exact ⟨rfl, rfl, rfl, .nil, rfl, rfl⟩

namespace Page

variable {types others : List TypeDef} {base : PageBase}
  {options : PageOptions} {name : String}

-- ================================================================ pages

/-- Pages with the same blocks, in whatever order, are the same page, and
a name without a type has no page in either schema. -/
theorem render_eq_of_blocks
    (h : ((typesNamed types name).map (block types base options)).Perm
      ((typesNamed others name).map (block others base options))) :
    render types base options name = render others base options name := by
  have hpage := congrArg String.join (Text.sorted_congr h)
  unfold render
  cases htypes : typesNamed types name with
  | nil =>
      cases hothers : typesNamed others name with
      | nil => rfl
      | cons u us =>
          rw [htypes, hothers] at h
          exact absurd h.length_eq (by simp)
  | cons t ts =>
      cases hothers : typesNamed others name with
      | nil =>
          rw [htypes, hothers] at h
          exact absurd h.length_eq (by simp)
      | cons u us =>
          rw [htypes, hothers] at hpage
          exact congrArg Except.ok hpage

/-- A type found under a name has that name. -/
theorem name_of_mem_typesNamed {type : TypeDef}
    (h : type ∈ typesNamed types name) : type.name = name := by
  simpa using (List.mem_filter.mp h).2

/-- Whether a name is unique is a matter of how many types have it. -/
theorem namedOnce_congr
    (h : (typesNamed types name).length = (typesNamed others name).length) :
    NamedOnce types name ↔ NamedOnce others name := by
  unfold NamedOnce
  rw [← List.length_eq_one_iff, h, List.length_eq_one_iff]

/-- The types of a name have the same blocks in two schemas where they
are alike and the names that they refer to are linked alike. -/
theorem blocks_perm_of_alike
    (hsame : Reordered TypeDef.Alike (typesNamed types name)
      (typesNamed others name))
    (hlinks : ∀ type ∈ typesNamed types name, ∀ field ∈ type.fields,
      (NamedOnce types (Table.shownType field)
        ↔ NamedOnce others (Table.shownType field))) :
    ((typesNamed types name).map (block types base options)).Perm
      ((typesNamed others name).map (block others base options)) := by
  obtain ⟨between, hperm, halike⟩ := hsame
  have hlength := hperm.length_eq.trans halike.length_eq
  have hblocks : between.map (block types base options)
      = (typesNamed others name).map (block others base options) := by
    refine map_eq_of_forall₂ halike fun t ht u htu => ?_
    have hmem := hperm.mem_iff.mpr ht
    have hname := name_of_mem_typesNamed hmem
    exact block_eq_of_toldAlike htu.toldAlike
      (hname ▸ namedOnce_congr hlength) (hlinks t hmem)
  rw [← hblocks]
  exact hperm.map _

/-- A page depends on the types of its name, up to their order and to
what no page shows, and on whether each of the names that their fields
refer to is the name of exactly one type. On nothing else: two schemas
that agree on these have the same page, or both have none. -/
theorem render_eq_of_alike (types others : List TypeDef) (name : String)
    (hsame : Reordered TypeDef.Alike (typesNamed types name)
      (typesNamed others name))
    (hlinks : ∀ type ∈ typesNamed types name, ∀ field ∈ type.fields,
      (NamedOnce types (Table.shownType field)
        ↔ NamedOnce others (Table.shownType field)))
    (base : PageBase) (options : PageOptions) :
    render types base options name = render others base options name :=
  render_eq_of_blocks (blocks_perm_of_alike hsame hlinks)

/-- Two objects of one name, before an identifier type. -/
def twins : List TypeDef :=
  [⟨"Twin", none, .object [⟨"id", none, .nonNull (.named "ID")⟩,
      ⟨"next", some "a | b", .named "Twin"⟩]⟩,
    ⟨"Twin", some "the other", .object [⟨"lost", none, []⟩]⟩,
    ⟨"ID", none, .scalar⟩]

/-- The same two the other way round, with fields and layers changed,
behind an identifier type that has become an enum and a stranger. -/
def twinsAgain : List TypeDef :=
  [⟨"ID", some "no longer a scalar", .enum [⟨"A", none⟩]⟩,
    ⟨"Twin", some "the other", .object [⟨"lost", none, .wrapping []⟩]⟩,
    ⟨"Stranger", none, .union ["Twin"]⟩,
    ⟨"Twin", none, .object [⟨"next", some "a | b", .list (.named "Twin")⟩,
      ⟨"id", none, .named "ID"⟩]⟩]

/-- The twins keep their page. -/
theorem render_eq_of_alike_twins :
    Reordered TypeDef.Alike (typesNamed twins "Twin")
        (typesNamed twinsAgain "Twin")
      ∧ (∀ type ∈ typesNamed twins "Twin", ∀ field ∈ type.fields,
          (NamedOnce twins (Table.shownType field)
            ↔ NamedOnce twinsAgain (Table.shownType field)))
      ∧ render twins .standard {} "Twin"
        = render twinsAgain .standard {} "Twin" := by
  have hsame : Reordered TypeDef.Alike (typesNamed twins "Twin")
      (typesNamed twinsAgain "Twin") := by
    refine ⟨[_, _], List.Perm.swap _ _ [], .cons ⟨rfl, rfl, .object ?_⟩
      (.cons ⟨rfl, rfl, .object ?_⟩ .nil)⟩
    · exact ⟨_, .refl _, .cons ⟨rfl, rfl, rfl⟩ .nil⟩
    · exact ⟨_, List.Perm.swap _ _ [],
        .cons ⟨rfl, rfl, rfl⟩ (.cons ⟨rfl, rfl, rfl⟩ .nil)⟩
  have hlinks : ∀ type ∈ typesNamed twins "Twin", ∀ field ∈ type.fields,
      (NamedOnce twins (Table.shownType field)
        ↔ NamedOnce twinsAgain (Table.shownType field)) := by
    have hcount : ∀ type ∈ typesNamed twins "Twin", ∀ field ∈ type.fields,
        (typesNamed twins (Table.shownType field)).length
          = (typesNamed twinsAgain (Table.shownType field)).length := by
      decide +kernel
    exact fun type ht field hf => namedOnce_congr (hcount type ht field hf)
  exact ⟨hsame, hlinks,
    render_eq_of_alike twins twinsAgain "Twin" hsame hlinks .standard {}⟩

end Page

end SchemaDocs
