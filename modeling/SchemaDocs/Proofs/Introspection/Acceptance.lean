/-
Which documents are accepted.

The reader follows three keys, each where the value at hand has it, and
takes what it arrives at. This file says which documents that lets
through, without following anything: a document leads to a list if it is
that list, or an object from which the first key that it has leads on
(`Leads`). A document is accepted exactly when it leads to a list and is
not a failed response (`loadedByEntries`).

# The induction

`Leads` speaks of the first key that an object has, and the reader goes
key by key. The two meet in an induction on the keys that are left, with
two steps: a key that the value has is followed and the keys before it
are forgotten (`leads_of_found`), and a key that it lacks may be crossed
off without changing where the value leads (`leads_of_missing`). Lists
are not objects and so lack every key, which is why a list is accepted
wherever it is met.

# Entries

What is loaded depends on the list alone, and on each of its entries by
itself. An entry that is no type leaves no gap.
-/
import SchemaDocs.Introspection.Document

namespace SchemaDocs.Introspection

open Json (lookup)

-- ============================================================ accepted

/-- A response that reports errors and has no data. -/
def Failed (document : Json) : Prop :=
  ∃ members errors, document = .object members
    ∧ lookup "errors" members = some (.array errors) ∧ errors ≠ []
    ∧ (lookup "data" members = none ∨ lookup "data" members = some .null)

/-- Through keys out of `keys`, taken in their order, a value leads to a
list of entries. -/
inductive Leads : List String → Json → List Json → Prop
  /-- A list leads to itself, whatever keys are left. -/
  | list {keys entries} : Leads keys (.array entries) entries
  /-- An object leads where the first of the keys that it has leads, with
  the keys behind that one left. -/
  | object (missing : List String) {key keys members inner entries}
      (hmissing : ∀ other ∈ missing, lookup other members = none)
      (hfound : lookup key members = some inner)
      (h : Leads keys inner entries) :
      Leads (missing ++ key :: keys) (.object members) entries

/-- A document leads to a list of entries. -/
def LeadsTo (document : Json) (entries : List Json) : Prop :=
  Leads ["data", "__schema", "types"] document entries

/-- A document delivers a list of entries. -/
structure Delivers (document : Json) (entries : List Json) : Prop where
  answered : ¬ Failed document
  leads : LeadsTo document entries

variable {document value inner : Json} {entries : List Json}
  {types : List TypeDef} {key : String} {keys : List String}

-- ======================================================= one key at a time

theorem exists_members_of_get? (h : value.get? key = some inner) :
    ∃ members, value = .object members ∧ lookup key members = some inner := by
  cases value with
  | object members => exact ⟨members, rfl, h⟩
  | null | bool _ | number _ _ | string _ | array _ => cases h

/-- Where no key is left, only a list leads anywhere. -/
theorem leads_nil : Leads [] value entries ↔ value = .array entries := by
  constructor
  · intro h
    generalize hkeys : ([] : List String) = keys at h
    cases h with
    | list => rfl
    | object => simp at hkeys
  · rintro rfl
    exact .list

/-- A key that the value has is the one that is followed. -/
theorem leads_of_found (h : value.get? key = some inner) :
    Leads (key :: keys) value entries ↔ Leads keys inner entries := by
  obtain ⟨members, rfl, hfound⟩ := exists_members_of_get? h
  constructor
  · intro hleads
    -- The key at the front is the one that was found or was missing, and
    -- only the former agrees with what the object has.
    generalize hkeys : key :: keys = all at hleads
    cases hleads with
    | object missing hmissing hother hinner =>
        cases missing with
        | nil =>
            obtain ⟨rfl, rfl⟩ := List.cons.inj hkeys
            rw [hfound] at hother
            exact Option.some.inj hother ▸ hinner
        | cons first rest =>
            obtain ⟨rfl, -⟩ := List.cons.inj hkeys
            rw [hmissing _ List.mem_cons_self] at hfound
            cases hfound
  · intro hleads
    exact .object [] (fun _ h => nomatch h) hfound hleads

/-- A key that the value lacks makes no difference. -/
theorem leads_of_missing (h : value.get? key = none) :
    Leads (key :: keys) value entries ↔ Leads keys value entries := by
  constructor
  · intro hleads
    generalize hkeys : key :: keys = all at hleads
    cases hleads with
    | list => exact .list
    | object missing hmissing hfound hinner =>
        cases missing with
        | nil =>
            obtain ⟨rfl, rfl⟩ := List.cons.inj hkeys
            cases hfound.symm.trans h
        | cons first rest =>
            obtain ⟨-, rfl⟩ := List.cons.inj hkeys
            exact .object rest
              (fun other ho => hmissing other (List.mem_cons_of_mem _ ho))
              hfound hinner
  · intro hleads
    cases hleads with
    | list => exact .list
    | object missing hmissing hfound hinner =>
        refine .object (key :: missing) ?_ hfound hinner
        intro other ho
        rcases List.mem_cons.mp ho with rfl | ho
        · exact h
        · exact hmissing other ho

/-- Following the keys one by one arrives at a list exactly when the
value leads to it. -/
theorem items?_foldl_follow (keys : List String) (value : Json) :
    (keys.foldl follow value).items? = some entries
      ↔ Leads keys value entries := by
  induction keys generalizing value with
  | nil =>
      rw [leads_nil]
      cases value <;> simp [Json.items?]
  | cons key keys ih =>
      rw [List.foldl_cons, ih]
      unfold follow
      cases hfound : value.get? key with
      | some inner => exact (leads_of_found hfound).symm
      | none => exact (leads_of_missing hfound).symm

-- ===================================================== failed responses

/-- The reader looks for failed responses and for nothing else. -/
theorem failure?_eq_none_iff :
    failure? document = none ↔ ¬ Failed document := by
  cases document with
  | object members =>
      unfold failure? Failed
      cases herrors : lookup "errors" members with
      | none => simp [Json.get?, herrors]
      | some errors =>
          cases errors with
          | array errors =>
              cases hdata : lookup "data" members with
              | none => simp [Json.get?, Json.items?, herrors, hdata]
              | some data =>
                  cases data <;>
                    simp [Json.get?, Json.items?, Json.isNull, herrors, hdata]
          | null | bool _ | number _ _ | string _ | object _ =>
              simp [Json.get?, Json.items?, herrors]
  | null | bool _ | number _ _ | string _ | array _ =>
      simp [failure?, Json.get?, Failed]

/-- A failed response is refused for its errors. -/
theorem readDocument_of_failed (h : Failed document) :
    ∃ messages, readDocument document = .error (.queryFailed messages) := by
  cases hfail : failure? document with
  | none => exact absurd h (failure?_eq_none_iff.mp hfail)
  | some messages =>
      refine ⟨messages, ?_⟩
      unfold readDocument Introspection.entries
      rw [hfail]
      rfl

-- ============================================================ documents

/-- A document that delivers entries is loaded from them. -/
theorem readDocument_of_delivers (h : Delivers document entries) :
    readDocument document = .ok (entries.filterMap readType) := by
  have hitems := (items?_foldl_follow _ _).mpr h.leads
  unfold readDocument Introspection.entries
  rw [failure?_eq_none_iff.mpr h.answered]
  simp only [hitems]
  rfl

/-- A document that leads to no list is refused for what is there in the
place of one. -/
theorem readDocument_of_not_leadsTo (hfail : ¬ Failed document)
    (h : ∀ entries, ¬ LeadsTo document entries) :
    ∃ found, found ≠ .list
      ∧ readDocument document = .error (.notAList found) := by
  have hitems : (["data", "__schema", "types"].foldl follow document).items?
      = none := by
    rw [Option.eq_none_iff_forall_ne_some]
    exact fun entries he => h entries ((items?_foldl_follow _ _).mp he)
  refine ⟨(["data", "__schema", "types"].foldl follow document).shape,
    ?_, ?_⟩
  · intro hshape
    -- Of all values only lists have the shape of one.
    cases hreached : ["data", "__schema", "types"].foldl follow document with
    | array items =>
        rw [hreached] at hitems
        cases hitems
    | null | bool _ | number _ _ | string _ | object _ =>
        rw [hreached] at hshape
        cases hshape
  · unfold readDocument Introspection.entries
    rw [failure?_eq_none_iff.mpr hfail]
    simp only [hitems]
    rfl

/-- Only documents that deliver entries are loaded. -/
theorem delivers_of_readDocument (h : readDocument document = .ok types) :
    ∃ entries, Delivers document entries := by
  have hfail : ¬ Failed document := by
    intro hfailed
    obtain ⟨messages, hm⟩ := readDocument_of_failed hfailed
    cases hm.symm.trans h
  by_cases hleads : ∃ entries, LeadsTo document entries
  · obtain ⟨entries, he⟩ := hleads
    exact ⟨entries, hfail, he⟩
  · obtain ⟨found, -, hf⟩ := readDocument_of_not_leadsTo hfail
      fun entries he => hleads ⟨entries, he⟩
    cases hf.symm.trans h

/-- What is loaded, and when. -/
theorem readDocument_eq_ok_iff :
    readDocument document = .ok types
      ↔ ∃ entries, Delivers document entries
        ∧ types = entries.filterMap readType := by
  constructor
  · intro h
    obtain ⟨entries, he⟩ := delivers_of_readDocument h
    have hload := readDocument_of_delivers he
    exact ⟨entries, he, Except.ok.inj (h.symm.trans hload)⟩
  · rintro ⟨entries, he, rfl⟩
    exact readDocument_of_delivers he

-- ============================================================ acceptance

/-- What becomes of a document. -/
structure LoadedByEntries (document : Json) : Prop where
  /-- It is loaded exactly when it delivers entries, and then gives the
  types among them, in their order. -/
  accepted : ∀ types, readDocument document = .ok types
    ↔ ∃ entries, Delivers document entries
      ∧ types = entries.filterMap readType
  /-- A failed response is refused for its errors. -/
  failed : Failed document →
    ∃ messages, readDocument document = .error (.queryFailed messages)
  /-- What leads to no list is refused for that. -/
  astray : ¬ Failed document → (∀ entries, ¬ LeadsTo document entries) →
    ∃ found, found ≠ .list
      ∧ readDocument document = .error (.notAList found)
  /-- Every text of the document is loaded as the document. -/
  written : ∀ text, Json.parse text = .ok document →
    load text = readDocument document
  /-- What stands around the entries makes no difference. -/
  wrapped : ∀ other entries, Delivers document entries →
    Delivers other entries → readDocument other = readDocument document
  /-- More entries behind those of the document give more types. -/
  extended : ∀ more both entries others, Delivers document entries →
    Delivers more others → Delivers both (entries ++ others) →
    ∃ types rest, readDocument document = .ok types
      ∧ readDocument more = .ok rest
      ∧ readDocument both = .ok (types ++ rest)
  /-- An entry that is no type may stand anywhere. -/
  interrupted : ∀ other front entry back, readType entry = none →
    Delivers document (front ++ back) →
    Delivers other (front ++ entry :: back) →
    readDocument other = readDocument document

/-- The reader accepts exactly the documents that deliver a list of
entries, and reads each entry by itself. -/
theorem loadedByEntries (document : Json) : LoadedByEntries document where
  accepted types := readDocument_eq_ok_iff
  failed := readDocument_of_failed
  astray := readDocument_of_not_leadsTo
  written text h := by
    unfold load
    rw [h]
  wrapped other entries h ho := by
    rw [readDocument_of_delivers h, readDocument_of_delivers ho]
  extended more both entries others h hm hb := by
    refine ⟨_, _, readDocument_of_delivers h, readDocument_of_delivers hm, ?_⟩
    rw [readDocument_of_delivers hb, List.filterMap_append]
  interrupted other front entry back hnone h ho := by
    rw [readDocument_of_delivers h, readDocument_of_delivers ho,
      List.filterMap_append, List.filterMap_append,
      List.filterMap_cons_none hnone]

/-- A scalar, and an object type that lacks its name. -/
def patchyEntries : List Json :=
  [.object [("kind", .string "SCALAR"), ("name", .string "ID")],
    .object [("kind", .string "OBJECT")]]

/-- A response without a schema object, which reports an error besides. -/
def patchy : Json :=
  .object [("errors", .array [.null]),
    ("data", .object [("types", .array patchyEntries)])]

/-- The response is loaded for the one type that it has. -/
theorem loadedByEntries_patchy :
    Delivers patchy patchyEntries
      ∧ readDocument patchy = .ok [⟨"ID", none, .scalar⟩] := by
  have hdelivers : Delivers patchy patchyEntries := by
    refine ⟨failure?_eq_none_iff.mp (by decide +kernel), ?_⟩
    exact .object [] (fun _ h => nomatch h) rfl
      (.object ["__schema"] (by simp [lookup]) rfl .list)
  exact ⟨hdelivers, ((loadedByEntries patchy).accepted _).mpr
    ⟨_, hdelivers, by decide +kernel⟩⟩

end SchemaDocs.Introspection
