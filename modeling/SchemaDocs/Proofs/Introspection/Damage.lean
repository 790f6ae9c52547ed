/-
Damage in a type reference.

Anything may stand where a record has the type of a field, or where a
layer of a reference has its kind, its name or what is inside it. Such
damage stays where it is (`damage_stays_in_place`). A type record with
damage to the types of its fields is read as the type with other
references in these fields and no other change. Damage to a layer keeps
the layers around it; a damaged kind costs that kind, a damaged inside
the layers inside, and a damaged name its own layer with them.

What a reference is resolved to is the first name that is met from the
outside, so kinds do not matter for it, nor does what stands inside the
layer of that name. Both may be damaged again and again (`Harmless`).

# How the proof goes

A change to one part of a record leaves its other parts as they are
(`part_of_replaced_ne`), and of a layer the reader takes each part by
itself. The induction on the depth of a change is made once, for changes
of every kind: what is read of a chain is the layers above that depth and
what is read of the record there (`readReference_atDepth`).
-/
import Mathlib.Logic.Relation
import SchemaDocs.Proofs.Introspection.Spelling

namespace SchemaDocs

/-- The layer with another value for its kind. What is not a text is no
kind. -/
def Layer.withKind (layer : Layer) (value : Json) : Layer :=
  { layer with kind := value.text? }

/-- The key of the list of fields in a type record, if the kind has one. -/
def Kind.fieldsKey? : Kind → Option String
  | object | interface => some "fields"
  | inputObject => some "inputFields"
  | union | enum | scalar => none

/-- The body with changes to its fields, each by its place. -/
def Body.mapFields (change : Nat → Field → Field) : Body → Body
  | .object fields => .object (fields.mapIdx change)
  | .inputObject fields => .inputObject (fields.mapIdx change)
  | .interface fields => .interface (fields.mapIdx change)
  | body => body

namespace Introspection

open Json (lookup lookup_append lookup_of_not_mem)

-- ========================================================= replaced parts

/-- The second record is the first with `value` for one of its parts. The
part stands under its key in an object, and at its position in an array. -/
inductive Replaced (key : String) (position : Nat) (value : Json) :
    Json → Json → Prop
  | object {old new : List (String × Json)}
      (hpart : lookup key new = some value)
      (hrest : ∀ other, other ≠ key → lookup other new = lookup other old) :
      Replaced key position value (.object old) (.object new)
  | array {old new : List Json}
      (hpart : new[position]? = some value)
      (hrest : ∀ place, place ≠ position → new[place]? = old[place]?) :
      Replaced key position value (.array old) (.array new)

variable {key : String} {position width : Nat} {value old new : Json}

/-- The value of a member may be replaced by any other. -/
theorem replaced_member (front back : List (String × Json)) {before : Json}
    (hback : key ∉ back.map Prod.fst) :
    Replaced key position value (.object (front ++ (key, before) :: back))
      (.object (front ++ (key, value) :: back)) := by
  refine .object ?_ fun other hother => ?_
  · rw [lookup_append, lookup, lookup_of_not_mem hback, if_pos rfl]
    rfl
  · rw [lookup_append, lookup_append, lookup, lookup, if_neg hother.symm,
      if_neg hother.symm]

/-- The part that was replaced is found under its key. -/
theorem part_of_replaced (h : Replaced key position value old new) :
    part key position new = some value := by
  cases h with
  | object hpart _ => exact hpart
  | array hpart _ => exact hpart

/-- The other parts stay. -/
theorem part_of_replaced_ne (h : Replaced key position value old new)
    {other : String} {place : Nat} (hkey : other ≠ key)
    (hplace : place ≠ position) :
    part other place new = part other place old := by
  cases h with
  | object _ hrest => exact hrest other hkey
  | array _ hrest => exact hrest place hplace

/-- A list is as long as there are places in it. -/
theorem length_le_iff {items : List Json} :
    items.length ≤ width ↔ items[width]? = none :=
  List.getElem?_eq_none_iff.symm

/-- The record stays one, and no wider than it may be. -/
theorem isRecord_of_replaced (h : Replaced key position value old new)
    (hwidth : position < width) :
    isRecord width new = isRecord width old := by
  cases h with
  | object _ _ => rfl
  | array _ hrest =>
      unfold isRecord
      simp only [length_le_iff, hrest width (by omega)]

-- ================================================================ layers

/-- The layer of a record. A name that is neither a text nor null leaves
none. -/
def layer? (record : Json) : Option Layer :=
  if isRecord 3 record then
    (optionalText (part "name" 1 record)).map fun name =>
      ⟨(part "kind" 0 record).bind Json.text?, name⟩
  else none

/-- What is read inside a record. -/
def inside (record : Json) : Reference :=
  ((part "ofType" 2 record).map readReference).getD []

/-- A reference is a layer and what is inside it, or nothing. -/
theorem readReference_eq (record : Json) :
    readReference record
      = ((layer? record).map (· :: inside record)).getD [] := by
  unfold layer?
  by_cases hrecord : isRecord 3 record = true
  · cases hname : optionalText (part "name" 1 record) with
    | none =>
        rw [readReference, if_pos hrecord, hname]
        simp
    | some name =>
        have hlayer : optionalText (part "name" 1 record)
            = some
              (Layer.name ⟨(part "kind" 0 record).bind Json.text?, name⟩) :=
          hname
        rw [readReference_eq_cons hrecord rfl hlayer, if_pos hrecord]
        rfl
  · rw [readReference, if_neg hrecord, if_neg hrecord]
    rfl

/-- What is inside a layer does not matter to the layer. -/
theorem layer?_of_replaced_inner (h : Replaced "ofType" 2 value old new) :
    layer? new = layer? old := by
  unfold layer?
  rw [isRecord_of_replaced h (by decide),
    part_of_replaced_ne h (by decide) (by decide),
    part_of_replaced_ne h (by decide) (by decide)]

/-- A new inside is read as a reference of its own. -/
theorem inside_of_replaced_inner (h : Replaced "ofType" 2 value old new) :
    inside new = readReference value := by
  unfold inside
  rw [part_of_replaced h]
  rfl

/-- The inside stays when another part is replaced. -/
theorem inside_of_replaced_ne (h : Replaced key position value old new)
    (hkey : "ofType" ≠ key) (hposition : 2 ≠ position) :
    inside new = inside old := by
  unfold inside
  rw [part_of_replaced_ne h hkey hposition]

theorem layer?_of_replaced_kind (h : Replaced "kind" 0 value old new) :
    layer? new = (layer? old).map (·.withKind value) := by
  unfold layer?
  rw [isRecord_of_replaced h (by decide), part_of_replaced h,
    part_of_replaced_ne h (by decide) (by decide)]
  split
  · rw [Option.map_map]
    rfl
  · rfl

/-- What is neither null nor a text is no name. -/
theorem optionalText_eq_none (hnull : value.isNull = false)
    (htext : value.text? = none) : optionalText (some value) = none := by
  cases value with
  | null => cases hnull
  | string text => cases htext
  | bool _ | number _ _ | array _ | object _ => rfl

theorem layer?_of_replaced_name (h : Replaced "name" 1 value old new)
    (hnull : value.isNull = false) (htext : value.text? = none) :
    layer? new = none := by
  unfold layer?
  rw [part_of_replaced h, optionalText_eq_none hnull htext]
  split <;> rfl

-- ================================================================ chains

/-- The second chain is the first with a change to the record at that
depth. -/
inductive AtDepth (Change : Json → Json → Prop) : Nat → Json → Json → Prop
  | here {old new : Json} (h : Change old new) : AtDepth Change 0 old new
  | deeper {depth : Nat} {old new before after : Json}
      (hbefore : part "ofType" 2 old = some before)
      (hafter : Replaced "ofType" 2 after old new)
      (h : AtDepth Change depth before after) :
      AtDepth Change (depth + 1) old new

variable {Change : Json → Json → Prop} {depth : Nat}

/-- A change to a chain is a change to what is read of the record at that
depth, behind layers that stay. Or else the chain ends above it, and the
change is not read. -/
theorem readReference_atDepth (h : AtDepth Change depth old new) :
    ((readReference old).length < depth
        ∧ readReference new = readReference old)
      ∨ ∃ above before after, above.length = depth ∧ Change before after
        ∧ readReference old = above ++ readReference before
        ∧ readReference new = above ++ readReference after := by
  induction h with
  | here h => exact .inr ⟨[], _, _, rfl, h, rfl, rfl⟩
  | @deeper depth old new before after hbefore hafter h ih =>
      have hlayer := layer?_of_replaced_inner hafter
      have hold : inside old = readReference before := by
        unfold inside
        rw [hbefore]
        rfl
      have hnew := inside_of_replaced_inner hafter
      rw [readReference_eq old, readReference_eq new, hlayer, hold, hnew]
      cases layer? old with
      | none => exact .inl ⟨Nat.succ_pos _, rfl⟩
      | some layer =>
          rcases ih with ⟨hlength, hsame⟩ | ⟨above, a, b, hab, hc, ha, hb⟩
          · exact .inl ⟨Nat.succ_lt_succ hlength,
              congrArg (layer :: ·) hsame⟩
          · exact .inr ⟨layer :: above, a, b, congrArg (· + 1) hab, hc,
              congrArg (layer :: ·) ha, congrArg (layer :: ·) hb⟩

/-- Where there is a layer at the depth of a change, the chain goes on
there with the layer of the changed record. -/
theorem exists_layer_of_atDepth (h : AtDepth Change depth old new)
    (hdepth : depth < (readReference old).length) :
    ∃ above layer before after, above.length = depth
      ∧ Change before after ∧ layer? before = some layer
      ∧ readReference old = above ++ layer :: inside before
      ∧ readReference new = above ++ readReference after := by
  rcases readReference_atDepth h with
    ⟨hlength, -⟩ | ⟨above, before, after, habove, hchange, hold, hnew⟩
  · omega
  · rw [readReference_eq before] at hold
    cases hlayer : layer? before with
    | none =>
        rw [hlayer] at hold
        rw [hold, ← habove] at hdepth
        simp at hdepth
    | some layer =>
        rw [hlayer] at hold
        exact ⟨above, layer, before, after, habove, hchange, hlayer, hold,
          hnew⟩

/-- Another value inside a layer: that layer and those above it stay, and
the value is read behind them. -/
theorem readReference_replaced_inner
    (h : AtDepth (Replaced "ofType" 2 value) depth old new)
    (hdepth : depth < (readReference old).length) :
    readReference new
      = (readReference old).take (depth + 1) ++ readReference value := by
  obtain ⟨above, layer, before, after, rfl, hchange, hlayer, hold, hnew⟩ :=
    exists_layer_of_atDepth h hdepth
  rw [hnew, hold, readReference_eq after, layer?_of_replaced_inner hchange,
    hlayer, inside_of_replaced_inner hchange, List.take_length_add_append]
  show above ++ ([layer] ++ readReference value) = _
  rw [List.append_assoc]
  rfl

/-- Another value for the kind of a layer: the kind is another one, or
none. -/
theorem readReference_replaced_kind
    (h : AtDepth (Replaced "kind" 0 value) depth old new)
    (hdepth : depth < (readReference old).length) :
    readReference new
      = (readReference old).modify depth (·.withKind value) := by
  obtain ⟨above, layer, before, after, rfl, hchange, hlayer, hold, hnew⟩ :=
    exists_layer_of_atDepth h hdepth
  rw [hnew, hold, readReference_eq after, layer?_of_replaced_kind hchange,
    hlayer, inside_of_replaced_ne hchange (by decide) (by decide),
    List.modify_eq_take_drop, List.take_left, List.drop_left]
  rfl

/-- A value that is no name for the name of a layer: the chain ends above
that layer. -/
theorem readReference_replaced_name
    (h : AtDepth (Replaced "name" 1 value) depth old new)
    (hdepth : depth < (readReference old).length)
    (hnull : value.isNull = false) (htext : value.text? = none) :
    readReference new = (readReference old).take depth := by
  obtain ⟨above, layer, before, after, rfl, hchange, hlayer, hold, hnew⟩ :=
    exists_layer_of_atDepth h hdepth
  rw [hnew, hold, readReference_eq after,
    layer?_of_replaced_name hchange hnull htext, List.take_left]
  exact List.append_nil above

-- ============================================================= resolving

/-- Another value for the kind of a layer, or any change at all below a
layer that has a name. -/
inductive Harmless : Json → Json → Prop
  | kind {old new : Json} (depth : Nat) (value : Json)
      (h : AtDepth (Replaced "kind" 0 value) depth old new) :
      Harmless old new
  | below {old new : Json} (Change : Json → Json → Prop) (depth : Nat)
      (h : AtDepth Change depth old new)
      (hnamed : Reference.target ((readReference old).take depth) ≠ none) :
      Harmless old new

/-- The kind of a layer does not matter for what it refers to. -/
theorem target_of_replaced_kind (h : Replaced "kind" 0 value old new) :
    (readReference new).target = (readReference old).target := by
  rw [readReference_eq, readReference_eq old, layer?_of_replaced_kind h,
    inside_of_replaced_ne h (by decide) (by decide)]
  cases layer? old <;> rfl

/-- Harmless damage leaves open nothing that was resolved, and resolves
nothing that was open. -/
theorem target_of_harmless (h : Harmless old new) :
    (readReference new).target = (readReference old).target := by
  cases h with
  | kind depth value h =>
      rcases readReference_atDepth h with
        ⟨-, hsame⟩ | ⟨above, before, after, -, hchange, hold, hnew⟩
      · rw [hsame]
      · rw [hold, hnew, Reference.target_append, Reference.target_append,
          target_of_replaced_kind hchange]
  | below Change depth h hnamed =>
      rcases readReference_atDepth h with
        ⟨-, hsame⟩ | ⟨above, before, after, rfl, -, hold, hnew⟩
      · rw [hsame]
      · rw [hold, List.take_left] at hnamed
        rw [hold, hnew, Reference.target_append_of_ne_none hnamed,
          Reference.target_append_of_ne_none hnamed]

/-- Nor does any amount of it. -/
theorem target_of_harmless_run (h : Relation.ReflTransGen Harmless old new) :
    (readReference new).target = (readReference old).target := by
  induction h with
  | refl => rfl
  | tail _ hlast ih => rw [target_of_harmless hlast, ih]

-- ================================================================ fields

/-- The second record of a field is the first with another value for its
type, or the same where there is no such value. -/
inductive Retyped : Option Json → Json → Json → Prop
  | spared (record : Json) : Retyped none record record
  | struck {value old new : Json} (h : Replaced "type" 2 value old new) :
      Retyped (some value) old new

/-- A field with what is read of that value for its type. -/
def retype : Option Json → Field → Field
  | none, field => field
  | some value, field => { field with type := readReference value }

/-- A field with a damaged type is still the field it was. -/
theorem readField_of_retyped {value? : Option Json} {field : Field}
    (h : Retyped value? old new) (hread : readField old = some field) :
    readField new = some (retype value? field) := by
  cases h with
  | spared => exact hread
  | @struck value _ _ h =>
      unfold readField at hread ⊢
      rw [isRecord_of_replaced h (by decide), part_of_replaced h,
        part_of_replaced_ne h (by decide) (by decide),
        part_of_replaced_ne h (by decide) (by decide)]
      split at hread
      · next hrecord =>
          rw [if_pos hrecord]
          obtain ⟨name, hname, hread⟩ := Option.bind_eq_some_iff.mp hread
          obtain ⟨description, hdescription, hread⟩ :=
            Option.bind_eq_some_iff.mp hread
          rw [hname, hdescription, ← Option.some.inj hread]
          rfl
      · cases hread

/-- The second list of field records is the first with damage to the types
of the fields, each in its place. -/
structure RetypedAll (damage : Nat → Option Json) (old new : List Json) :
    Prop where
  length : new.length = old.length
  field : ∀ i before after, old[i]? = some before → new[i]? = some after →
    Retyped (damage i) before after

theorem mapM_readField_of_retyped {damage : Nat → Option Json}
    {old new : List Json} {fields : List Field}
    (h : RetypedAll damage old new)
    (hread : old.mapM readField = some fields) :
    new.mapM readField
      = some (fields.mapIdx fun i field => retype (damage i) field) := by
  induction old generalizing damage new fields with
  | nil =>
      obtain rfl : new = [] := List.length_eq_zero_iff.mp h.length
      obtain rfl : [] = fields := Option.some.inj hread
      rfl
  | cons before old ih =>
      cases new with
      | nil => cases h.length
      | cons after new =>
          have hlater : RetypedAll (fun i => damage (i + 1)) old new :=
            ⟨Nat.succ.inj h.length, fun i b a hb ha =>
              h.field (i + 1) b a hb ha⟩
          rw [List.mapM_cons] at hread
          obtain ⟨field, hfield, hread⟩ := Option.bind_eq_some_iff.mp hread
          obtain ⟨more, hmore, hread⟩ := Option.bind_eq_some_iff.mp hread
          rw [← Option.some.inj hread, List.mapM_cons,
            readField_of_retyped (h.field 0 before after rfl rfl) hfield,
            ih hlater hmore, List.mapIdx_cons]
          rfl

-- ================================================================= types

variable {type : TypeDef}

/-- What is read of a record is of the kind that is wanted. -/
theorem kind_of_readBody {kind : Kind} {record : Json} {body : Body}
    (h : readBody kind record = some body) : body.kind = kind := by
  cases kind with
  | scalar =>
      rw [← Option.some.inj h]
      rfl
  | object | inputObject | interface | union | enum =>
      obtain ⟨members, -, rfl⟩ := Option.map_eq_some_iff.mp h
      rfl

/-- How a type is read: each of its parts is. -/
theorem readType_eq_some_iff {record : Json} :
    readType record = some type
      ↔ (requiredText (part "kind" 0 record)).bind Kind.ofLabel?
          = some type.kind
        ∧ isRecord (typeWidth type.kind) record = true
        ∧ requiredText (part "name" 1 record) = some type.name
        ∧ optionalText (part "description" 2 record)
          = some type.description
        ∧ readBody type.kind record = some type.body := by
  constructor
  · intro h
    obtain ⟨kind, hkind, h⟩ := Option.bind_eq_some_iff.mp h
    split at h
    · next hrecord =>
        obtain ⟨name, hname, h⟩ := Option.bind_eq_some_iff.mp h
        obtain ⟨description, hdescription, h⟩ := Option.bind_eq_some_iff.mp h
        obtain ⟨body, hbody, h⟩ := Option.bind_eq_some_iff.mp h
        obtain rfl := Option.some.inj h
        obtain rfl := kind_of_readBody hbody
        exact ⟨hkind, hrecord, hname, hdescription, hbody⟩
    · cases h
  · rintro ⟨hkind, hrecord, hname, hdescription, hbody⟩
    exact readType_eq_some hkind hrecord hname hdescription hbody

/-- The second type record is the first with damage to the types of the
fields in its list. -/
inductive Damaged (key : String) (damage : Nat → Option Json)
    (old new : Json) :
    Prop
  | intro {before after : List Json}
      (hbefore : part key 3 old = some (.array before))
      (hfields : RetypedAll damage before after)
      (hafter : Replaced key 3 (.array after) old new)

/-- A type with what is read of those values for the types of its fields. -/
def retypeFields (damage : Nat → Option Json) (type : TypeDef) : TypeDef :=
  { type with body := type.body.mapFields fun i => retype (damage i) }

/-- The list of fields is read with the damage. -/
theorem childList_of_damaged {damage : Nat → Option Json}
    {fields : List Field} (h : Damaged key damage old new)
    (hread : childList readField (part key 3 old) = some fields) :
    childList readField (part key 3 new)
      = some (fields.mapIdx fun i => retype (damage i)) := by
  obtain ⟨hbefore, hfields, hafter⟩ := h
  rw [hbefore] at hread
  rw [part_of_replaced hafter]
  exact mapM_readField_of_retyped hfields hread

/-- And so is what a type holds. -/
theorem readBody_of_damaged {damage : Nat → Option Json}
    (hkey : type.kind.fieldsKey? = some key)
    (h : Damaged key damage old new)
    (hread : readBody type.kind old = some type.body) :
    readBody type.kind new
      = some (type.body.mapFields fun i => retype (damage i)) := by
  obtain ⟨name, description, body⟩ := type
  cases body with
  | object fields | interface fields | inputObject fields =>
      obtain rfl := Option.some.inj hkey
      obtain ⟨all, hall, hbody⟩ := Option.map_eq_some_iff.mp hread
      injection hbody with hfields
      exact congrArg (Option.map _)
        (childList_of_damaged h (hfields ▸ hall))
  | union members | enum values | scalar => cases hkey

/-- The list of fields is the last of four parts. -/
theorem typeWidth_of_fieldsKey? {kind : Kind}
    (h : kind.fieldsKey? = some key) :
    typeWidth kind = 4 ∧ "kind" ≠ key ∧ "name" ≠ key
      ∧ "description" ≠ key := by
  cases kind <;> cases h <;> decide

/-- Damage to the types of fields costs their references and no more. -/
theorem readType_of_damaged {damage : Nat → Option Json}
    (hkey : type.kind.fieldsKey? = some key)
    (h : Damaged key damage old new) (hread : readType old = some type) :
    readType new = some (retypeFields damage type) := by
  obtain ⟨hkind, hrecord, hname, hdescription, hbody⟩ :=
    readType_eq_some_iff.mp hread
  have hchanged := readBody_of_damaged hkey h hbody
  have hsame : (retypeFields damage type).kind = type.kind :=
    kind_of_readBody hchanged
  obtain ⟨hwidth, hkindKey, hnameKey, hdescriptionKey⟩ :=
    typeWidth_of_fieldsKey? hkey
  obtain ⟨-, -, hafter⟩ := h
  rw [readType_eq_some_iff, hsame,
    isRecord_of_replaced hafter (by rw [hwidth]; decide),
    part_of_replaced_ne hafter hkindKey (by decide),
    part_of_replaced_ne hafter hnameKey (by decide),
    part_of_replaced_ne hafter hdescriptionKey (by decide)]
  exact ⟨hkind, hrecord, hname, hdescription, hchanged⟩

-- ================================================================ damage

/-- Damage stays where it is. In a type record, whatever stands for the
types of some fields, the type is read with what is read of that for these
fields, and otherwise as before. In a reference, at any depth, another
value inside a layer is read behind the layers down to this one, which
stay; another value for a kind changes that kind only; and a name that is
no name ends the chain above its layer. Whatever is done to kinds and
below a layer with a name, the reference resolves to the same name. -/
theorem damage_stays_in_place :
    (∀ (type : TypeDef) (key : String) (damage : Nat → Option Json)
        (old new : Json),
      type.kind.fieldsKey? = some key → Damaged key damage old new →
      readType old = some type →
      readType new = some (retypeFields damage type))
    ∧ (∀ (old new : Json) (depth : Nat) (value : Json),
      depth < (readReference old).length →
      (AtDepth (Replaced "ofType" 2 value) depth old new →
        readReference new = (readReference old).take (depth + 1)
          ++ readReference value)
      ∧ (AtDepth (Replaced "kind" 0 value) depth old new →
        readReference new
          = (readReference old).modify depth (·.withKind value))
      ∧ (AtDepth (Replaced "name" 1 value) depth old new →
        value.isNull = false → value.text? = none →
        readReference new = (readReference old).take depth))
    ∧ ∀ old new : Json, Relation.ReflTransGen Harmless old new →
      (readReference new).target = (readReference old).target := by
  refine ⟨?_, ?_, ?_⟩
  · intro type key damage old new hkey h hread
    exact readType_of_damaged hkey h hread
  · intro old new depth value hdepth
    refine ⟨?_, ?_, ?_⟩
    · intro h
      exact readReference_replaced_inner h hdepth
    · intro h
      exact readReference_replaced_kind h hdepth
    · intro h hnull htext
      exact readReference_replaced_name h hdepth hnull htext
  · intro old new h
    exact target_of_harmless_run h

/-- A reference to a list of hens, with that name for its middle layer. -/
def hens (name : Json) : Json :=
  .object [("kind", .string "LIST"), ("ofType", .object [
    ("kind", .string "NON_NULL"), ("name", name),
    ("ofType", .object [("kind", .string "OBJECT"),
      ("name", .string "Hen")])])]

/-- The hens of a coop, and a fox of that type. -/
def animals (fox : Json) : List Json :=
  [.object [("name", .string "hens"), ("type", hens .null)],
    .object [("type", fox), ("name", .string "fox")]]

/-- The coop. -/
def coop (fox : Json) : Json :=
  .object [("kind", .string "OBJECT"), ("name", .string "Coop"),
    ("fields", .array (animals fox))]

/-- A fox that is a number is no fox, and the hens beside it are safe. A
layer that is named by a number is no layer, and the hens inside it are
gone. -/
theorem damage_stays_in_place_coop :
    Damaged "fields" (fun i => if i = 1 then some (.number 7 0) else none)
        (coop (.object [("name", .string "Fox")])) (coop (.number 7 0))
      ∧ readType (coop (.number 7 0)) = some ⟨"Coop", none, .object [
          ⟨"hens", none, [⟨some "LIST", none⟩, ⟨some "NON_NULL", none⟩,
            ⟨some "OBJECT", some "Hen"⟩]⟩, ⟨"fox", none, []⟩]⟩
      ∧ AtDepth (Replaced "name" 1 (.number 7 0)) 1 (hens .null)
          (hens (.number 7 0))
      ∧ readReference (hens (.number 7 0)) = [⟨some "LIST", none⟩] := by
  obtain ⟨htype, hlayer, -⟩ := damage_stays_in_place
  have hhens : readReference (hens .null)
      = [⟨some "LIST", none⟩, ⟨some "NON_NULL", none⟩,
        ⟨some "OBJECT", some "Hen"⟩] := by decide +kernel
  have hcoop : readType (coop (.object [("name", .string "Fox")]))
      = some ⟨"Coop", none, .object [
          ⟨"hens", none, [⟨some "LIST", none⟩, ⟨some "NON_NULL", none⟩,
            ⟨some "OBJECT", some "Hen"⟩]⟩,
          ⟨"fox", none, [⟨none, some "Fox"⟩]⟩]⟩ := by decide +kernel
  have hnumber : readReference (.number 7 0) = [] := by decide +kernel
  have hdamaged : Damaged "fields"
      (fun i => if i = 1 then some (.number 7 0) else none)
      (coop (.object [("name", .string "Fox")])) (coop (.number 7 0)) := by
    have hafter : Replaced "fields" 3 (.array (animals (.number 7 0)))
        (coop (.object [("name", .string "Fox")])) (coop (.number 7 0)) :=
      replaced_member [_, _] [] List.not_mem_nil
    have hfields : RetypedAll
        (fun i => if i = 1 then some (.number 7 0) else none)
        (animals (.object [("name", .string "Fox")]))
        (animals (.number 7 0)) := by
      refine ⟨rfl, fun i before after hbefore hafter => ?_⟩
      rcases i with _ | _ | i
      · obtain rfl := Option.some.inj hbefore
        obtain rfl := Option.some.inj hafter
        exact .spared _
      · obtain rfl := Option.some.inj hbefore
        obtain rfl := Option.some.inj hafter
        exact .struck (replaced_member [] [("name", _)] (by decide))
      · cases hbefore
    exact .intro rfl hfields hafter
  have hname : AtDepth (Replaced "name" 1 (.number 7 0)) 1 (hens .null)
      (hens (.number 7 0)) :=
    .deeper rfl (replaced_member [_] [] List.not_mem_nil)
      (.here (replaced_member [_] [("ofType", _)] (by simp)))
  refine ⟨hdamaged, ?_, hname, ?_⟩
  · rw [htype _ _ _ _ _ rfl hdamaged hcoop]
    simp [retypeFields, Body.mapFields, retype, hnumber]
  · rw [(hlayer _ _ 1 _ (by rw [hhens]; decide)).2.2 hname rfl rfl, hhens]
    rfl

end Introspection

end SchemaDocs
