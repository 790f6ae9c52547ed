/-
The many spellings of a record.

A record of an introspection result may be written in many ways. As an
object it has its parts under their keys, in any order and among others,
and a part that has a default and holds it may be null or missing. As an
array it has its parts in their order, and those that hold their defaults
may be missing at the end. A type record holds records that hold records,
and each of them is written in its own way. This file says that none of
this matters: whatever writes a type is read as that type
(`every_spelling_is_read`).

# Parts

A `Part` says under which key something stands, which values write it and
whether it may be missing. A kind of record is a list of parts, and how
such a list is written (`Spells`) is said once for all kinds. So is what
the reader finds at the place of a part (`of_part`): one of the
values that write it, or nothing where it may be missing. Each kind of
record then follows from its parts, and references, which are chains of
records, by induction on the chain.
-/
import Mathlib.Data.List.Forall2
import Mathlib.Data.List.Nodup
import SchemaDocs.Introspection.Document

namespace SchemaDocs.Introspection

open Json (lookup lookup_of_mem lookup_of_not_mem)

-- =============================================================== parts

/-- A part of a record. -/
structure Part where
  key : String
  /-- The values that write it. -/
  Writes : Json → Prop
  /-- Whether it may be missing, because it holds its default. -/
  Omissible : Prop

/-- The part is written by the value that is found at its place, or
missing from there. -/
def Part.StandsIn (part : Part) : Option Json → Prop
  | some value => part.Writes value
  | none => part.Omissible

/-- The record has those parts. -/
inductive Spells (parts : List Part) : Json → Prop
  /-- In an object each part stands under its key. What stands under
  other keys does not matter. -/
  | object {members : List (String × Json)}
      (h : ∀ part ∈ parts, part.StandsIn (lookup part.key members)) :
      Spells parts (.object members)
  /-- In an array the parts stand in their order. Some may be missing at
  the end. -/
  | array (kept missing : List Part) {items : List Json}
      (hparts : kept ++ missing = parts)
      (hkept : List.Forall₂ Part.Writes kept items)
      (hmissing : ∀ part ∈ missing, part.Omissible) :
      Spells parts (.array items)

/-- A text that has to be there. -/
def Part.text (key text : String) : Part where
  key := key
  Writes value := value = .string text
  Omissible := False

/-- A text that may be absent. Where it is, the part is null or missing. -/
def Part.optional (key : String) (text : Option String) : Part where
  key := key
  Writes value := value = .ofText? text
  Omissible := text = none

/-- A list of records. Where it is empty, the part may be null or missing. -/
def Part.list {α : Type} (key : String) (WritesItem : α → Json → Prop)
    (items : List α) : Part where
  key := key
  Writes value := (value = .null ∧ items = [])
    ∨ ∃ records, value = .array records
      ∧ List.Forall₂ WritesItem items records
  Omissible := items = []

-- ============================================================= records

/-- What writes a reference: a record for each layer, inside that of the
layer around it. The empty chain is null where it is written at all. -/
def WritesReference : Reference → Json → Prop
  | [] => (· = .null)
  | layer :: inner => Spells
      [.optional "kind" layer.kind, .optional "name" layer.name,
        ⟨"ofType", WritesReference inner, inner = []⟩]

/-- What writes a field or an input field. -/
def WritesField (field : Field) : Json → Prop :=
  Spells [.text "name" field.name, .optional "description" field.description,
    ⟨"type", WritesReference field.type, field.type = []⟩]

/-- What writes an enum value. -/
def WritesValue (value : EnumValue) : Json → Prop :=
  Spells [.text "name" value.name, .optional "description" value.description]

/-- What writes a union member. -/
def WritesMember (name : String) : Json → Prop :=
  Spells [.text "name" name]

/-- The part of a type record that belongs to its kind. -/
def bodyParts : Body → List Part
  | .object fields | .interface fields => [.list "fields" WritesField fields]
  | .inputObject fields => [.list "inputFields" WritesField fields]
  | .union members => [.list "possibleTypes" WritesMember members]
  | .enum values => [.list "enumValues" WritesValue values]
  | .scalar => []

/-- The parts of a type record. -/
def typeParts (type : TypeDef) : List Part :=
  .text "kind" type.kind.label :: .text "name" type.name
    :: .optional "description" type.description :: bodyParts type.body

/-- What writes a type. -/
def WritesType (type : TypeDef) : Json → Prop := Spells (typeParts type)

variable {parts : List Part} {record : Json} {key : String}
  {value : Option Json}

-- ================================================== the place of a part

/-- At the place of a part the reader finds the part. -/
theorem standsIn_part (h : Spells parts record) (position : Nat)
    {p : Part} (hp : parts[position]? = some p) :
    p.StandsIn (part p.key position record) := by
  cases h with
  | object h => exact h p (List.mem_of_getElem? hp)
  | array kept missing hparts hkept hmissing =>
      show p.StandsIn _[position]?
      have hlength := hkept.length_eq
      -- The place is that of an item, or it is behind the last one.
      by_cases hlt : position < kept.length
      · rw [← hparts, List.getElem?_append_left hlt,
          List.getElem?_eq_getElem hlt] at hp
        rw [List.getElem?_eq_getElem (hlength ▸ hlt), ← Option.some.inj hp]
        exact hkept.get hlt (hlength ▸ hlt)
      · rw [← hparts, List.getElem?_append_right (by omega)] at hp
        rw [List.getElem?_eq_none (by omega)]
        exact hmissing p (List.mem_of_getElem? hp)

/-- No record is wider than its parts. -/
theorem isRecord_of_spells (h : Spells parts record) {width : Nat}
    (hwidth : parts.length ≤ width) : isRecord width record = true := by
  cases h with
  | object h => rfl
  | array kept missing hparts hkept hmissing =>
      have hlength := hkept.length_eq
      rw [← hparts, List.length_append] at hwidth
      simp only [isRecord, decide_eq_true_eq]
      omega

theorem optionalText_ofText? (text : Option String) :
    optionalText (some (.ofText? text)) = some text := by
  cases text with
  | none => rfl
  | some text => rfl

/-- What holds of nothing where a part may be missing, and of each value
that writes it, holds of what is found at its place. -/
theorem of_part {P : Option Json → Prop} (h : Spells parts record)
    (position : Nat) {p : Part} (hp : parts[position]? = some p)
    (hmissing : p.Omissible → P none)
    (hwritten : ∀ value, p.Writes value → P (some value)) :
    P (part p.key position record) := by
  have hplace := standsIn_part h position hp
  cases hvalue : part p.key position record with
  | none =>
      rw [hvalue] at hplace
      exact hmissing hplace
  | some value =>
      rw [hvalue] at hplace
      exact hwritten value hplace

/-- A text that has to be there is read in either spelling. -/
theorem requiredText_part (h : Spells parts record) (position : Nat)
    {text : String}
    (hp : parts[position]? = some (.text key text)) :
    requiredText (part key position record) = some text := by
  refine of_part (P := fun found => requiredText found = some text)
    h position hp False.elim ?_
  rintro value rfl
  rfl

/-- So is a text that may be left out. -/
theorem optionalText_part (h : Spells parts record) (position : Nat)
    {text : Option String}
    (hp : parts[position]? = some (.optional key text)) :
    optionalText (part key position record) = some text := by
  refine of_part (P := fun found => optionalText found = some text)
    h position hp ?_ ?_
  · rintro rfl
    rfl
  · rintro value rfl
    exact optionalText_ofText? text

/-- What is an optional text or nothing is also found by those who take
anything else for nothing. -/
theorem bind_text?_of_optionalText {text : Option String}
    (h : optionalText value = some text) : value.bind Json.text? = text := by
  match value with
  | none | some .null | some (.string _) => exact Option.some.inj h
  | some (.bool _) | some (.number _ _) | some (.array _)
  | some (.object _) => cases h

/-- A list of records is read as long as each of them is. -/
theorem exists_mapM {α β : Type} {IsRecord : α → Json → Prop}
    {read : Json → Option β} {R : α → β → Prop}
    (hread : ∀ item record, IsRecord item record →
      ∃ made, read record = some made ∧ R item made)
    {items : List α} {records : List Json}
    (h : List.Forall₂ IsRecord items records) :
    ∃ all, records.mapM read = some all ∧ List.Forall₂ R items all := by
  induction h with
  | nil => exact ⟨[], rfl, .nil⟩
  | cons hitem _ ih =>
      obtain ⟨made, hmade, hR⟩ := hread _ _ hitem
      obtain ⟨all, hall, hRs⟩ := ih
      refine ⟨made :: all, ?_, .cons hR hRs⟩
      rw [List.mapM_cons, hmade, hall]
      rfl

/-- The records of a list are read as the items that they write. -/
theorem childList_part {α : Type} {WritesItem : α → Json → Prop}
    {read : Json → Option α}
    (hread : ∀ item record, WritesItem item record → read record = some item)
    (h : Spells parts record) (position : Nat) {items : List α}
    (hp : parts[position]? = some (.list key WritesItem items)) :
    childList read (part key position record) = some items := by
  refine of_part (P := fun found => childList read found = some items)
    h position hp ?_ ?_
  · rintro rfl
    rfl
  · rintro value (⟨rfl, rfl⟩ | ⟨records, rfl, hrecords⟩)
    · rfl
    · obtain ⟨all, hall, hsame⟩ := exists_mapM (R := Eq)
        (fun item record hitem => ⟨item, hread item record hitem, rfl⟩)
        hrecords
      rw [List.forall₂_eq_eq_eq] at hsame
      rw [hsame]
      exact hall

-- ========================================================== references

/-- Whatever is found at the place of a reference is read as it, and so
is nothing where there is none. -/
theorem readReference_part {reference : Reference}
    (hread : ∀ record, WritesReference reference record →
      readReference record = reference)
    (h : Spells parts record) (position : Nat)
    (hp : parts[position]?
      = some ⟨key, WritesReference reference, reference = []⟩) :
    ((part key position record).map readReference).getD [] = reference := by
  refine of_part
    (P := fun found => (found.map readReference).getD [] = reference)
    h position hp Eq.symm ?_
  exact fun value hvalue => hread value hvalue

/-- A layer is read first, and then what is inside it. -/
theorem readReference_eq_cons {layer : Layer}
    (hrecord : isRecord 3 record = true)
    (hkind : (part "kind" 0 record).bind Json.text? = layer.kind)
    (hname : optionalText (part "name" 1 record) = some layer.name) :
    readReference record
      = layer :: ((part "ofType" 2 record).map readReference).getD [] := by
  rw [readReference, if_pos hrecord, hname, hkind]
  show _ :: _ = _ :: _
  congr 1
  split
  · next hnone => rw [hnone]; rfl
  · next found hfound =>
      show readReference found = _
      rw [hfound]
      rfl

/-- Whatever writes a reference is read as it, however deep it is. -/
theorem readReference_of_writes {reference : Reference} :
    ∀ record, WritesReference reference record →
      readReference record = reference := by
  induction reference with
  | nil =>
      rintro record rfl
      rw [readReference]
      rfl
  | cons layer inner ih =>
      intro record h
      have hkind := optionalText_part h 0 rfl
      have hname := optionalText_part h 1 rfl
      have hinner := readReference_part ih h 2 rfl
      rw [readReference_eq_cons (isRecord_of_spells h (Nat.le_refl 3))
        (bind_text?_of_optionalText hkind) hname, hinner]

-- ============================================================= members

/-- A field is read from whatever writes it. -/
theorem readField_of_writes (field : Field) (record : Json)
    (h : WritesField field record) : readField record = some field := by
  have hname := requiredText_part h 0 rfl
  have hdescription := optionalText_part h 1 rfl
  have htype :=
    readReference_part readReference_of_writes h 2 rfl
  unfold readField
  rw [if_pos (isRecord_of_spells h (Nat.le_refl 3)), hname, hdescription,
    htype]
  rfl

theorem readEnumValue_of_writes (value : EnumValue) (record : Json)
    (h : WritesValue value record) : readEnumValue record = some value := by
  have hname := requiredText_part h 0 rfl
  have hdescription := optionalText_part h 1 rfl
  unfold readEnumValue
  rw [if_pos (isRecord_of_spells h (Nat.le_refl 2)), hname, hdescription]
  rfl

theorem readMember_of_writes (name : String) (record : Json)
    (h : WritesMember name record) : readMember record = some name := by
  unfold readMember
  rw [if_pos (isRecord_of_spells h (Nat.le_refl 1))]
  exact requiredText_part h 0 rfl

-- =============================================================== types

/-- What a type holds is read from the part of its kind. -/
theorem readBody_of_writes {type : TypeDef} (h : WritesType type record) :
    readBody type.kind record = some type.body := by
  obtain ⟨name, description, body⟩ := type
  cases body with
  | object fields | interface fields | inputObject fields =>
      exact congrArg (Option.map _)
        (childList_part readField_of_writes h 3 rfl)
  | union members =>
      exact congrArg (Option.map _)
        (childList_part readMember_of_writes h 3 rfl)
  | enum values =>
      exact congrArg (Option.map _)
        (childList_part readEnumValue_of_writes h 3 rfl)
  | scalar => rfl

/-- A type record has as many parts as its kind allows. -/
theorem length_typeParts (type : TypeDef) :
    (typeParts type).length = typeWidth type.kind := by
  obtain ⟨name, description, body⟩ := type
  cases body <;> rfl

/-- A type is read part by part. -/
theorem readType_eq_some {type : TypeDef} {record : Json}
    (hkind : (requiredText (part "kind" 0 record)).bind Kind.ofLabel?
      = some type.kind)
    (hrecord : isRecord (typeWidth type.kind) record = true)
    (hname : requiredText (part "name" 1 record) = some type.name)
    (hdescription : optionalText (part "description" 2 record)
      = some type.description)
    (hbody : readBody type.kind record = some type.body) :
    readType record = some type := by
  unfold readType
  rw [hkind, hname, hdescription]
  show (if _ then _ else _) = _
  rw [if_pos hrecord, hbody]
  rfl

/-- Whatever writes a type is read as it. -/
theorem readType_of_writes (type : TypeDef) (record : Json)
    (h : WritesType type record) : readType record = some type := by
  have hkind := requiredText_part h 0 rfl
  have hname := requiredText_part h 1 rfl
  have hdescription := optionalText_part h 2 rfl
  have hrecord := isRecord_of_spells h (Nat.le_of_eq (length_typeParts type))
  refine readType_eq_some ?_ hrecord hname hdescription
    (readBody_of_writes h)
  rw [hkind]
  exact Kind.ofLabel?_label type.kind

-- ============================================================ existence

/-- An object with distinct keys spells a record as long as the parts are
among its members, wherever they are. -/
theorem spells_of_mem {members : List (String × Json)}
    (hkeys : (members.map Prod.fst).Nodup)
    (h : ∀ part ∈ parts, (∃ value, (part.key, value) ∈ members
        ∧ part.Writes value)
      ∨ (part.key ∉ members.map Prod.fst ∧ part.Omissible)) :
    Spells parts (.object members) := by
  refine .object fun part hpart => ?_
  rcases h part hpart with ⟨value, hmem, hwrites⟩ | ⟨hmissing, homit⟩
  · rw [lookup_of_mem hkeys hmem]
    exact hwrites
  · rw [lookup_of_not_mem hmissing]
    exact homit

/-- Items that can be written one by one can be written as a list. -/
theorem exists_forall₂ {α β : Type} {R : α → β → Prop} {items : List α}
    (h : ∀ item ∈ items, ∃ made, R item made) :
    ∃ all, List.Forall₂ R items all := by
  induction items with
  | nil => exact ⟨[], .nil⟩
  | cons item items ih =>
      obtain ⟨made, hmade⟩ := h item List.mem_cons_self
      obtain ⟨all, hall⟩ := ih fun i hi => h i (List.mem_cons_of_mem _ hi)
      exact ⟨made :: all, .cons hmade hall⟩

/-- Parts that can be written make an array. -/
theorem exists_array (h : ∀ part ∈ parts, ∃ value, part.Writes value) :
    ∃ items, Spells parts (.array items) := by
  obtain ⟨items, hitems⟩ := exists_forall₂ h
  exact ⟨items,
    .array parts [] (List.append_nil _) hitems fun _ hp => nomatch hp⟩

/-- A record is made of its parts. -/
theorem exists_record (h : ∀ part ∈ parts, ∃ value, part.Writes value) :
    ∃ record, Spells parts record :=
  (exists_array h).imp' Json.array fun _ hitems => hitems

/-- Parts that can be written stand under their keys. -/
theorem exists_members (h : ∀ part ∈ parts, ∃ value, part.Writes value) :
    ∃ members : List (String × Json),
      members.map Prod.fst = parts.map Part.key
        ∧ ∀ part ∈ parts, ∃ value, (part.key, value) ∈ members
          ∧ part.Writes value := by
  induction parts with
  | nil => exact ⟨[], rfl, fun _ hp => nomatch hp⟩
  | cons first rest ih =>
      obtain ⟨value, hvalue⟩ := h first List.mem_cons_self
      obtain ⟨members, hkeys, hmembers⟩ :=
        ih fun part hpart => h part (List.mem_cons_of_mem _ hpart)
      refine ⟨(first.key, value) :: members, by rw [List.map_cons, hkeys]; rfl,
        fun part hpart => ?_⟩
      rcases List.mem_cons.mp hpart with rfl | hpart
      · exact ⟨value, List.mem_cons_self, hvalue⟩
      · obtain ⟨other, hmem, hother⟩ := hmembers part hpart
        exact ⟨other, List.mem_cons_of_mem _ hmem, hother⟩

/-- If their keys are distinct they make an object. -/
theorem exists_object (hkeys : (parts.map Part.key).Nodup)
    (h : ∀ part ∈ parts, ∃ value, part.Writes value) :
    ∃ members, Spells parts (.object members) := by
  obtain ⟨members, hnames, hmembers⟩ := exists_members h
  refine ⟨members, spells_of_mem (hnames ▸ hkeys) fun part hpart => ?_⟩
  exact .inl (hmembers part hpart)

theorem exists_writes_list {α : Type} {WritesItem : α → Json → Prop}
    (h : ∀ item, ∃ record, WritesItem item record) (items : List α) :
    ∃ value, (Part.list key WritesItem items).Writes value := by
  obtain ⟨records, hrecords⟩ := exists_forall₂ fun item (_ : item ∈ items) =>
    h item
  exact ⟨_, .inr ⟨records, rfl, hrecords⟩⟩

/-- Every reference can be written. -/
theorem exists_writesReference (reference : Reference) :
    ∃ record, WritesReference reference record := by
  induction reference with
  | nil => exact ⟨.null, rfl⟩
  | cons layer inner ih =>
      refine exists_record ?_
      simp only [List.forall_mem_cons]
      exact ⟨⟨_, rfl⟩, ⟨_, rfl⟩, ih, fun _ h => nomatch h⟩

theorem exists_writesField (field : Field) :
    ∃ record, WritesField field record := by
  refine exists_record ?_
  simp only [List.forall_mem_cons]
  exact ⟨⟨_, rfl⟩, ⟨_, rfl⟩, exists_writesReference field.type,
    fun _ h => nomatch h⟩

theorem exists_writesValue (value : EnumValue) :
    ∃ record, WritesValue value record := by
  refine exists_record ?_
  simp only [List.forall_mem_cons]
  exact ⟨⟨_, rfl⟩, ⟨_, rfl⟩, fun _ h => nomatch h⟩

theorem exists_writesMember (name : String) :
    ∃ record, WritesMember name record := by
  refine exists_record ?_
  simp only [List.forall_mem_cons]
  exact ⟨⟨_, rfl⟩, fun _ h => nomatch h⟩

/-- Every part of a type can be written. -/
theorem exists_writes_of_mem_typeParts (type : TypeDef) :
    ∀ part ∈ typeParts type, ∃ value, part.Writes value := by
  obtain ⟨name, description, body⟩ := type
  have hbody : ∀ part ∈ bodyParts body, ∃ value, part.Writes value := by
    cases body with
    | object fields | interface fields | inputObject fields =>
        exact List.forall_mem_singleton.mpr
          (exists_writes_list exists_writesField fields)
    | union members =>
        exact List.forall_mem_singleton.mpr
          (exists_writes_list exists_writesMember members)
    | enum values =>
        exact List.forall_mem_singleton.mpr
          (exists_writes_list exists_writesValue values)
    | scalar => exact fun _ h => nomatch h
  unfold typeParts
  simp only [List.forall_mem_cons]
  exact ⟨⟨_, rfl⟩, ⟨_, rfl⟩, ⟨_, rfl⟩, hbody⟩

/-- No two parts of a type share a key. -/
theorem nodup_typeParts (type : TypeDef) :
    ((typeParts type).map Part.key).Nodup := by
  obtain ⟨name, description, body⟩ := type
  cases body <;>
    simp [typeParts, bodyParts, Part.text, Part.optional, Part.list]

-- ============================================================ spellings

/-- Every type can be written, as an object and as an array, and whatever
writes it is read as that type and no other. A list of such records is
loaded as the list of those types. -/
theorem every_spelling_is_read :
    (∀ type : TypeDef, (∃ members, WritesType type (.object members))
      ∧ (∃ items, WritesType type (.array items))
      ∧ ∀ record, WritesType type record → readType record = some type)
    ∧ ∀ types records, List.Forall₂ WritesType types records →
      readDocument (.array records) = .ok types := by
  refine ⟨fun type => ⟨?_, ?_, ?_⟩, fun types records h => ?_⟩
  · exact exists_object (nodup_typeParts type)
      (exists_writes_of_mem_typeParts type)
  · exact exists_array (exists_writes_of_mem_typeParts type)
  · exact readType_of_writes type
  · show Except.ok (records.filterMap readType) = _
    induction h with
    | nil => rfl
    | cons htype _ ih =>
        rw [List.filterMap_cons_some (readType_of_writes _ _ htype),
          Except.ok.inj ih]

/-- A type with two fields, one of them without a type. -/
def nest : TypeDef :=
  ⟨"Nest", none, .object [
    ⟨"eggs", some "all of them", [⟨some "LIST", none⟩, ⟨none, some "Egg"⟩]⟩,
    ⟨"tree", none, []⟩]⟩

/-- A record of it: the first field and the inner layer of its type are
arrays, keys stand in no order, and a list that objects do not have is a
number. -/
def nestRecord : Json :=
  .object [("enumValues", .number 7 0),
    ("fields", .array [
      .array [.string "eggs", .string "all of them",
        .object [("ofType", .array [.null, .string "Egg"]),
          ("kind", .string "LIST")]],
      .object [("type", .null), ("args", .array []),
        ("name", .string "tree")]]),
    ("name", .string "Nest"), ("kind", .string "OBJECT")]

/-- A nest is read from a record that mixes the spellings. -/
theorem every_spelling_is_read_nest :
    WritesType nest nestRecord ∧ readType nestRecord = some nest := by
  have hegg : WritesReference [⟨none, some "Egg"⟩]
      (.array [.null, .string "Egg"]) :=
    .array [.optional "kind" none, .optional "name" (some "Egg")]
      [⟨"ofType", WritesReference [], [] = []⟩] rfl
      (.cons rfl (.cons rfl .nil)) (List.forall_mem_singleton.mpr rfl)
  have heggs : WritesReference [⟨some "LIST", none⟩, ⟨none, some "Egg"⟩]
      (.object [("ofType", .array [.null, .string "Egg"]),
        ("kind", .string "LIST")]) := by
    refine .object ?_
    simp only [List.forall_mem_cons]
    exact ⟨rfl, rfl, hegg, fun _ h => nomatch h⟩
  have hfields : List.Forall₂ WritesField nest.fields [
      .array [.string "eggs", .string "all of them",
        .object [("ofType", .array [.null, .string "Egg"]),
          ("kind", .string "LIST")]],
      .object [("type", .null), ("args", .array []),
        ("name", .string "tree")]] := by
    refine .cons ?_ (.cons ?_ .nil)
    · exact .array _ [] (List.append_nil _) (.cons rfl (.cons rfl
        (.cons heggs .nil))) fun _ h => nomatch h
    · refine .object ?_
      simp only [List.forall_mem_cons]
      exact ⟨rfl, rfl, rfl, fun _ h => nomatch h⟩
  have hnest : WritesType nest nestRecord := by
    refine .object ?_
    simp only [typeParts, nest, bodyParts, List.forall_mem_cons]
    exact ⟨rfl, rfl, rfl, .inr ⟨_, rfl, hfields⟩, fun _ h => nomatch h⟩
  exact ⟨hnest, (every_spelling_is_read.1 nest).2.2 nestRecord hnest⟩

end SchemaDocs.Introspection
