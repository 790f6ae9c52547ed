/-
JSON values.

Objects keep their members as they were written, repeats included; a
lookup finds the last member of a key, so that a repeated key means its
last value. A number is kept exactly, as a whole number times a power of
ten.
-/

namespace SchemaDocs

/-- A JSON value. `number m e` is `m` times ten to the power `e`. -/
inductive Json
  | null
  | bool (value : Bool)
  | number (mantissa : Int) (exponent : Int)
  | string (text : String)
  | array (items : List Json)
  | object (members : List (String × Json))
  deriving Repr

namespace Json

-- ============================================================ lookups

/-- The value of the last member with that key. -/
def lookup (key : String) : List (String × Json) → Option Json
  | [] => none
  | (k, value) :: rest =>
      match lookup key rest with
      | some later => some later
      | none => if k = key then some value else none

/-- The value under a key of an object; every other value has no keys. -/
def get? (key : String) : Json → Option Json
  | object members => lookup key members
  | _ => none

/-- A looked-up value is smaller than the members it was found in. -/
theorem sizeOf_lookup {key : String} {members : List (String × Json)}
    {value : Json}
    (h : lookup key members = some value) : sizeOf value < sizeOf members := by
  induction members with
  | nil => simp [lookup] at h
  | cons member rest ih =>
      obtain ⟨k, v⟩ := member
      simp only [lookup] at h
      cases hr : lookup key rest with
      | some later =>
          have := ih (by rw [hr] at h; exact hr.trans h)
          simp only [List.cons.sizeOf_spec]
          omega
      | none =>
          rw [hr] at h
          by_cases hk : k = key
          · simp only [hk, if_true, Option.some.injEq] at h
            subst h
            simp only [List.cons.sizeOf_spec, Prod.mk.sizeOf_spec]
            omega
          · simp [hk] at h

/-- What is found under a key is one of the members. -/
theorem mem_of_lookup {key : String} {members : List (String × Json)}
    {value : Json}
    (h : lookup key members = some value) : (key, value) ∈ members := by
  induction members with
  | nil => cases h
  | cons member rest ih =>
      obtain ⟨k, v⟩ := member
      rw [lookup] at h
      split at h
      · next later hlater => exact List.mem_cons_of_mem _ (ih (hlater.trans h))
      · split at h
        · next hk =>
          cases h
          exact hk ▸ List.mem_cons_self
        · cases h

/-- There is nothing under a key that no member has. -/
theorem lookup_of_not_mem {key : String} {members : List (String × Json)}
    (h : key ∉ members.map Prod.fst) : lookup key members = none := by
  induction members with
  | nil => rfl
  | cons member rest ih =>
      obtain ⟨k, v⟩ := member
      rw [List.map_cons, List.mem_cons, not_or] at h
      simp [lookup, ih h.2, Ne.symm h.1]

/-- With distinct keys the order of members does not matter. -/
theorem lookup_of_mem {key : String} {members : List (String × Json)}
    {value : Json}
    (hkeys : (members.map Prod.fst).Nodup) (h : (key, value) ∈ members) :
    lookup key members = some value := by
  induction members with
  | nil => cases h
  | cons member rest ih =>
      obtain ⟨k, v⟩ := member
      obtain ⟨hk, hrest⟩ := List.nodup_cons.mp hkeys
      rcases List.mem_cons.mp h with heq | hmem
      · obtain ⟨rfl, rfl⟩ := Prod.mk.inj heq
        have hnone : lookup key rest = none := lookup_of_not_mem hk
        simp [lookup, hnone]
      · simp [lookup, ih hrest hmem]

/-- Members that come later are found first. -/
theorem lookup_append {key : String} (front back : List (String × Json)) :
    lookup key (front ++ back) = (lookup key back).or (lookup key front) := by
  induction front with
  | nil => simp [lookup]
  | cons member front ih =>
      rw [List.cons_append, lookup, ih, lookup]
      cases lookup key back <;> rfl

-- ============================================================ readings

/-- The text of a string value. -/
def text? : Json → Option String
  | string text => some text
  | _ => none

/-- The items of an array. -/
def items? : Json → Option (List Json)
  | array items => some items
  | _ => none

/-- Whether the value is null. -/
def isNull : Json → Bool
  | null => true
  | _ => false

/-- The six shapes of JSON values. -/
inductive Shape
  | null | boolean | number | string | list | object
  deriving DecidableEq, Repr

/-- The shape of a value. -/
def shape : Json → Shape
  | null => .null
  | bool _ => .boolean
  | number _ _ => .number
  | string _ => .string
  | array _ => .list
  | object _ => .object

/-- A shape in words. -/
def Shape.noun : Shape → String
  | .null => "null"
  | .boolean => "a boolean"
  | .number => "a number"
  | .string => "a string"
  | .list => "a list"
  | .object => "an object"

-- ============================================================ building

/-- A natural number as a JSON number. -/
def ofNat (n : Nat) : Json := number n 0

/-- An object with its members in the order of their keys. -/
def sortedObject (members : List (String × Json)) : Json :=
  object (members.mergeSort fun a b => decide (a.1 ≤ b.1))

/-- A text, or null where there is none. -/
def ofText? : Option String → Json
  | some text => string text
  | none => null

end Json

end SchemaDocs
