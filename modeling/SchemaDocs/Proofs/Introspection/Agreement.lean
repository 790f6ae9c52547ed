/-
The two ways to load a schema agree.

A schema comes in its own language or as an introspection result. The one
reader walks over type expressions; the other decodes records and has an
answer for whatever is missing or damaged in them. Given the same schema
they do not arrive at the same types: the layer that carries a name has a
kind in an introspection result and none in the language. The types that
they arrive at are alike, though (`TypeDef.Alike`), and no page, no
overview and no suggestion tells such types apart (`loaders_agree`).

# How the proof goes

Every record of a standard result is an object, in which a part is what
stands under its key (`part_of_get?`). From there one lemma for each kind
of record says what is read of it, and the lemma for references is an
induction on the type expression: every layer but the last is nameless,
so that the name inside is what the chain refers to, however long it is.
Lists of records come down to their items (`exists_mapM`).

The second half says what consumers make of types that are alike. The
page is by far the largest of them, and `Locality` has settled it.
-/
import SchemaDocs.Overview
import SchemaDocs.Similarity
import SchemaDocs.Proofs.Introspection.Spelling
import SchemaDocs.Proofs.Introspection.Standard
import SchemaDocs.Proofs.Json.Roundtrip
import SchemaDocs.Proofs.Page.Locality

namespace SchemaDocs.Introspection

open Sdl (Name TypeExpr FieldDef ValueDef Members Definition)

variable {record : Json} {key : String} {value : Json}

-- =============================================================== parts

/-- What has a value under a key is an object, whose parts are found by
their keys. -/
theorem part_of_get? (h : record.get? key = some value) (position : Nat) :
    part key position record = some value := by
  cases record with
  | object members => exact h
  | null | bool _ | number _ _ | string _ | array _ => cases h

/-- An object may hold any number of parts. -/
theorem isRecord_of_get? (h : record.get? key = some value) (width : Nat) :
    isRecord width record = true := by
  cases record with
  | object members => rfl
  | null | bool _ | number _ _ | string _ | array _ => cases h

theorem isNull_of_get? (h : record.get? key = some value) :
    record.isNull = false := by
  cases record with
  | object members => rfl
  | null | bool _ | number _ _ | string _ | array _ => cases h

-- ========================================================== references

/-- A layer is read as it was written, with what is inside it. -/
theorem readReference_of_isLayer {kind : String} {name : Option String}
    {inner : Json} (h : IsLayer kind name inner record) :
    readReference record = ⟨some kind, name⟩ :: readReference inner := by
  rw [readReference, if_pos (isRecord_of_get? h.kind 3),
    part_of_get? h.name, part_of_get? h.kind, optionalText_ofText?]
  have hinner := part_of_get? h.ofType 2
  show _ :: _ = _ :: _
  congr 1
  split
  · next hnone =>
      rw [hnone] at hinner
      cases hinner
  · next found hfound =>
      rw [hfound] at hinner
      exact congrArg readReference (Option.some.inj hinner)

/-- A nameless layer leaves open what is referred to. -/
theorem target_of_isLayer_none {kind : String} {inner : Json}
    (h : IsLayer kind none inner record) :
    (readReference record).target = (readReference inner).target := by
  rw [readReference_of_isLayer h]
  rfl

/-- A layer with a name refers to it. -/
theorem target_of_isNamed {name : Name} (h : IsNamed name record) :
    (readReference record).target = some name.text := by
  obtain ⟨kind, hlayer⟩ := h
  rw [readReference_of_isLayer hlayer]
  simp [Reference.target, Layer.exposed, name.text_ne_empty]

/-- A reference to a type refers to the name inside all its brackets. -/
theorem target_of_isReference {type : TypeExpr}
    (h : IsReference type record) :
    (readReference record).target = some type.innermost.text := by
  induction type generalizing record with
  | named name => exact target_of_isNamed h
  | nonNullNamed name =>
      obtain ⟨inner, hlayer, hname⟩ := h
      rw [target_of_isLayer_none hlayer]
      exact target_of_isNamed hname
  | list item ih =>
      obtain ⟨inner, hlayer, hitem⟩ := h
      rw [target_of_isLayer_none hlayer]
      exact ih hitem
  | nonNullList item ih =>
      obtain ⟨list, hmark, inner, hlayer, hitem⟩ := h
      rw [target_of_isLayer_none hmark, target_of_isLayer_none hlayer]
      exact ih hitem

-- ============================================================= members

/-- A field is read alike. -/
theorem readField_of_isField (field : FieldDef) (record : Json)
    (h : IsField field record) :
    ∃ read, readField record = some read ∧ field.describe.Alike read := by
  obtain ⟨reference, hreference, htype⟩ := h.type
  refine ⟨⟨field.name.text, field.description, readReference reference⟩, ?_,
    rfl, rfl, ?_⟩
  · unfold readField
    rw [if_pos (isRecord_of_get? h.name 3), part_of_get? h.name,
      part_of_get? h.description, part_of_get? hreference,
      optionalText_ofText?]
    rfl
  · show Reference.target field.type.layers = _
    rw [TypeExpr.target_layers, target_of_isReference htype]

theorem readEnumValue_of_isValue (value : ValueDef) (record : Json)
    (h : IsValue value record) :
    readEnumValue record = some value.describe := by
  unfold readEnumValue
  rw [if_pos (isRecord_of_get? h.name 2), part_of_get? h.name,
    part_of_get? h.description, optionalText_ofText?]
  rfl

theorem readMember_of_isMember (name : Name) (record : Json)
    (h : IsMember name record) :
    readMember record = some name.text := by
  unfold readMember
  rw [if_pos (isRecord_of_get? h 1), part_of_get? h]
  rfl

/-- The child list of a record is read as long as each of its records is. -/
theorem exists_childList {α β : Type} {IsRecord : α → Json → Prop}
    {read : Json → Option β} {R : α → β → Prop}
    (hread : ∀ item record, IsRecord item record →
      ∃ made, read record = some made ∧ R item made)
    {items : List α} (h : Lists key IsRecord items record)
    (position : Nat) :
    ∃ all, childList read (part key position record) = some all
      ∧ List.Forall₂ R items all := by
  obtain ⟨records, hkey, hrecords⟩ := h
  rw [part_of_get? hkey]
  exact exists_mapM hread hrecords

/-- Fields are read alike, each in its place. -/
theorem exists_fields {fields : List FieldDef}
    (h : Lists key IsField fields record) (position : Nat) :
    ∃ all, childList readField (part key position record) = some all
      ∧ Reordered Field.Alike (fields.map FieldDef.describe) all := by
  obtain ⟨all, hall, halike⟩ :=
    exists_childList readField_of_isField h position
  exact ⟨all, hall, _, .refl _, List.forall₂_map_left_iff.mpr halike⟩

/-- What is read as it is makes the list that is described. -/
theorem childList_eq {α β : Type} {IsRecord : α → Json → Prop}
    {read : Json → Option β} {describe : α → β}
    (hread : ∀ item record, IsRecord item record →
      read record = some (describe item))
    {items : List α} (h : Lists key IsRecord items record)
    (position : Nat) :
    childList read (part key position record)
      = some (items.map describe) := by
  obtain ⟨all, hall, hsame⟩ := exists_childList
    (R := fun item made => describe item = made)
    (fun item _ hitem => ⟨_, hread item _ hitem, rfl⟩) h position
  rw [hall, map_eq_of_forall₂ hsame fun _ _ _ h => h, List.map_id']

-- =============================================================== types

/-- What a type holds is read alike. -/
theorem readBody_of_hasMembers {members : Members}
    (h : HasMembers members record) :
    ∃ body, readBody members.kind record = some body
      ∧ members.describe.Alike body := by
  cases members with
  | object fields =>
      obtain ⟨all, hall, halike⟩ := exists_fields h 3
      exact ⟨.object all, congrArg (Option.map _) hall, .object halike⟩
  | inputObject fields =>
      obtain ⟨all, hall, halike⟩ := exists_fields h 3
      exact ⟨.inputObject all, congrArg (Option.map _) hall,
        .inputObject halike⟩
  | interface fields =>
      obtain ⟨all, hall, halike⟩ := exists_fields h 3
      exact ⟨.interface all, congrArg (Option.map _) hall,
        .interface halike⟩
  | union names =>
      have hall := childList_eq readMember_of_isMember h 3
      exact ⟨_, congrArg (Option.map _) hall, .union _⟩
  | enum values =>
      have hall := childList_eq readEnumValue_of_isValue h 3
      exact ⟨_, congrArg (Option.map _) hall, .enum _⟩
  | scalar => exact ⟨.scalar, rfl, .scalar⟩

/-- A type is read alike. -/
theorem readType_of_isType {definition : Definition}
    (h : IsType definition record) :
    ∃ type, readType record = some type
      ∧ definition.describe.Alike type := by
  obtain ⟨body, hbody, halike⟩ := readBody_of_hasMembers h.members
  refine ⟨⟨definition.name.text, definition.description, body⟩, ?_,
    rfl, rfl, halike⟩
  unfold readType
  rw [part_of_get? h.kind, part_of_get? h.name, part_of_get? h.description,
    optionalText_ofText?]
  show ((Kind.ofLabel? definition.members.kind.label).bind _) = _
  rw [Kind.ofLabel?_label]
  show (if isRecord _ record = true then _ else _) = _
  rw [if_pos (isRecord_of_get? h.kind _), hbody]
  rfl

-- =========================================================== documents

/-- Data that holds something is not null, so that the query has not
failed. -/
theorem failure?_of_schemaOf {document object : Json}
    (h : SchemaOf document object) : failure? document = none := by
  unfold failure?
  cases h with
  | response hdata hschema =>
      have hnull := isNull_of_get? hschema
      rw [hdata]
      cases (document.get? "errors").bind Json.items? with
      | none => rfl
      | some errors => simp [hnull]
  | bare hdata herrors hschema =>
      rw [herrors]
      rfl

/-- The entries of a document are the list in its schema object. -/
theorem entries_of_schemaOf {document object : Json} {records : List Json}
    (hobject : SchemaOf document object)
    (hrecords : object.get? "types" = some (.array records)) :
    entries document = .ok records := by
  unfold entries
  rw [failure?_of_schemaOf hobject]
  have hreached : ["data", "__schema", "types"].foldl follow document
      = .array records := by
    show follow (follow (follow document "data") "__schema") "types" = _
    unfold follow
    cases hobject with
    | response hdata hschema =>
        rw [hdata, Option.getD_some, hschema, Option.getD_some, hrecords,
          Option.getD_some]
    | bare hdata herrors hschema =>
        rw [hdata, Option.getD_none, hschema, Option.getD_some, hrecords,
          Option.getD_some]
  simp only [hreached]
  rfl

/-- From a standard result the reader has the types of the schema, each
of them alike and in its place. -/
theorem readDocument_of_isResult {schema : List Definition}
    {document : Json} (h : IsResult schema document) :
    ∃ loaded, readDocument document = .ok loaded
      ∧ List.Forall₂ TypeDef.Alike (schema.map Definition.describe)
          loaded := by
  obtain ⟨object, hobject, records, hrecords, htypes⟩ := h
  refine ⟨records.filterMap readType, ?_, ?_⟩
  · unfold readDocument
    rw [entries_of_schemaOf hobject hrecords]
    rfl
  · clear hrecords
    induction htypes with
    | nil => exact .nil
    | cons htype _ ih =>
        obtain ⟨type, hread, halike⟩ := readType_of_isType htype
        rw [List.map_cons, List.filterMap_cons_some hread]
        exact .cons halike ih

-- =========================================================== consumers

/-- Nothing that is made from the types tells the two schemas apart. -/
structure Indistinguishable (types others : List TypeDef) : Prop where
  page : ∀ base options name,
    Page.render types base options name
      = Page.render others base options name
  overview : ∀ withBuiltins,
    Overview.ofTypes types withBuiltins
      = Overview.ofTypes others withBuiltins
  suggestion : ∀ wanted,
    Similarity.closest wanted types = Similarity.closest wanted others

variable {types others : List TypeDef}

theorem kind_eq_of_alike {b c : Body} (h : b.Alike c) : b.kind = c.kind := by
  cases h with
  | object _ | inputObject _ | interface _ => rfl
  | union _ | enum _ | scalar => rfl

/-- A choice that does not look at more than what alike types agree on
chooses alike types. -/
theorem filter_alike {p : TypeDef → Bool}
    (hp : ∀ {t u : TypeDef}, t.Alike u → p t = p u)
    (h : List.Forall₂ TypeDef.Alike types others) :
    List.Forall₂ TypeDef.Alike (types.filter p) (others.filter p) :=
  List.rel_filter
    (fun t u htu => by
      show p t = true ↔ p u = true
      rw [hp htu]) h

/-- And so it chooses the same names. -/
theorem names_filter_eq {p : TypeDef → Bool}
    (hp : ∀ {t u : TypeDef}, t.Alike u → p t = p u)
    (h : List.Forall₂ TypeDef.Alike types others) :
    (types.filter p).map TypeDef.name = (others.filter p).map TypeDef.name :=
  map_eq_of_forall₂ (filter_alike hp h) fun _ _ _ htu => htu.name

theorem typesNamed_alike (h : List.Forall₂ TypeDef.Alike types others)
    (name : String) :
    List.Forall₂ TypeDef.Alike (typesNamed types name)
      (typesNamed others name) :=
  filter_alike (fun htu => by rw [htu.name]) h

/-- Schemas whose types are alike one by one are indistinguishable. -/
theorem indistinguishable_of_alike
    (h : List.Forall₂ TypeDef.Alike types others) :
    Indistinguishable types others where
  page base options name := by
    refine Page.render_eq_of_blocks (Page.blocks_perm_of_alike
      ⟨_, .refl _, typesNamed_alike h name⟩ fun _ _ field _ => ?_)
    exact Page.namedOnce_congr (typesNamed_alike h _).length_eq
  overview withBuiltins := by
    have hnames : ∀ kind,
        (types.filter fun type => type.kind = kind
            && (withBuiltins || !type.isBuiltin)).map TypeDef.name
          = (others.filter fun type => type.kind = kind
            && (withBuiltins || !type.isBuiltin)).map TypeDef.name :=
      fun kind => names_filter_eq (fun htu => by
        unfold TypeDef.kind TypeDef.isBuiltin TypeDef.isReserved
        rw [kind_eq_of_alike htu.body, htu.name]) h
    unfold Overview.ofTypes
    simp only [hnames]
  suggestion wanted := by
    have hnames := names_filter_eq (p := fun type => !type.isReserved)
      (fun htu => by
        unfold TypeDef.isReserved
        rw [htu.name]) h
    unfold Similarity.closest Similarity.closestBy
    simp only [hnames]

-- ============================================================ agreement

/-- A document that is not nested too deep is loaded from its text. -/
theorem load_print {document : Json} (h : Json.fits 127 document = true) :
    load document.print = readDocument document := by
  unfold load
  rw [Json.parse_print h]

/-- The two loaders agree. Given a standard introspection result of a
schema, however deep the types of its fields are nested, the reader of
such results has types that nobody can tell from those that the schema
language gives. This goes for the document, for every text of it that the
JSON reader accepts, and for every text in the schema language that has
the types of the schema. -/
theorem loaders_agree (schema : List Definition) (document : Json)
    (h : IsResult schema document) :
    ∃ loaded, readDocument document = .ok loaded
      ∧ (∀ text, Json.parse text = .ok document → load text = .ok loaded)
      ∧ Indistinguishable (schema.map Definition.describe) loaded
      ∧ ∀ text described, (Sdl.read text).types = schema →
          Sdl.load text = .ok described →
          Indistinguishable described loaded := by
  obtain ⟨loaded, hloaded, halike⟩ := readDocument_of_isResult h
  have hsame := indistinguishable_of_alike halike
  refine ⟨loaded, hloaded, ?_, hsame, ?_⟩
  · intro text htext
    unfold load
    rw [htext]
    exact hloaded
  · intro text described htypes hdescribed
    rw [Sdl.described_of_load hdescribed, htypes]
    exact hsame

/-- A query for books that are there, and what a book may be. -/
def shelf : List Definition :=
  [⟨⟨"Query", rfl⟩, some "the root", .object [⟨⟨"books", rfl⟩,
      some "a | b", .nonNullList (.nonNullNamed ⟨"Book", rfl⟩)⟩]⟩,
    ⟨⟨"Book", rfl⟩, none, .union [⟨"Novel", rfl⟩, ⟨"Atlas", rfl⟩]⟩,
    ⟨⟨"Novel", rfl⟩, none, .interface [⟨⟨"pages", rfl⟩, none,
      .list (.list (.named ⟨"String", rfl⟩))⟩]⟩,
    ⟨⟨"Atlas", rfl⟩, none, .enum [⟨⟨"WORLD", rfl⟩, none⟩]⟩]

/-- The shelf is loaded as two different lists of types, with the same
pages. -/
theorem loaders_agree_shelf :
    IsResult shelf (resultOf shelf)
      ∧ ∃ loaded, load (resultOf shelf).print = .ok loaded
        ∧ loaded ≠ shelf.map Definition.describe
        ∧ Indistinguishable (shelf.map Definition.describe) loaded := by
  have hfits : Json.fits 127 (resultOf shelf) = true := by decide +kernel
  obtain ⟨loaded, hloaded, -, hsame, -⟩ :=
    loaders_agree shelf (resultOf shelf) (isResult_resultOf shelf)
  refine ⟨isResult_resultOf shelf, loaded, (load_print hfits).trans hloaded,
    ?_, hsame⟩
  rintro rfl
  revert hloaded
  decide +kernel

end SchemaDocs.Introspection
