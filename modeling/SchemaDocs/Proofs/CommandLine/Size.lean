/-
A schema has no more types than its text has characters.

Of an introspection result each type is an item of a list in a JSON
document, and of a document in the schema language each type begins with
a token of its own. Only the types that every schema has come without
being written (`length_loadSchema`).
-/
import SchemaDocs.CommandLine.Run
import SchemaDocs.Proofs.Json.Size

namespace SchemaDocs

namespace Introspection

open Json (Narrow)

variable {n : Nat} {document : Json}

/-- What a key leads to is narrow when the document is. -/
theorem narrow_follow (h : Narrow n document) (key : String) :
    Narrow n (follow document key) := by
  unfold follow
  cases hvalue : document.get? key with
  | none => exact h
  | some value =>
      obtain ⟨-, hinner⟩ := h
      exact hinner hvalue

theorem narrow_foldl_follow (h : Narrow n document) (keys : List String) :
    Narrow n (keys.foldl follow document) := by
  induction keys generalizing document with
  | nil => exact h
  | cons key keys ih => exact ih (narrow_follow h key)

/-- The entries of a document are the items behind three keys. -/
theorem items?_of_entries {found : List Json}
    (h : entries document = .ok found) :
    (["data", "__schema", "types"].foldl follow document).items?
      = some found := by
  unfold entries at h
  split at h
  · cases h
  · dsimp only at h
    split at h
    · next hitems =>
      cases h
      exact hitems
    · cases h

/-- A document has no more types than its text has characters. -/
theorem length_load {text : String} {types : List TypeDef}
    (h : load text = .ok types) : types.length ≤ text.length := by
  unfold load at h
  split at h
  · next document hparse =>
    obtain ⟨found, hfound, rfl⟩ := exists_of_map h
    obtain ⟨hitems, -⟩ := narrow_foldl_follow (Json.narrow_parse hparse)
      ["data", "__schema", "types"]
    exact Nat.le_trans (List.length_filterMap_le _ _)
      (hitems (items?_of_entries hfound))
  · cases h

end Introspection

namespace Sdl

/-- No more is read than there are tokens. -/
theorem length_manyWithin {α : Type} (p : Token → Bool)
    (read : Reader (Option α)) (bound : List Token) (cursor : Cursor) :
    (manyWithin p read bound cursor).1.length ≤ bound.length := by
  induction bound generalizing cursor with
  | nil => exact Nat.le_refl _
  | cons token bound ih =>
      unfold manyWithin
      by_cases hp : headIs p cursor.rest = true
      · have hmore := ih (read cursor).2
        have hfound : (read cursor).1.toList.length ≤ 1 := by
          cases (read cursor).1 <;> simp
        show ((if headIs p cursor.rest then _ else _ :
          Reader (List α)) cursor).1.length ≤ _
        rw [if_pos hp]
        show ((read cursor).1.toList
          ++ (manyWithin p read bound (read cursor).2).1).length ≤ _
        rw [List.length_append, List.length_cons]
        omega
      · show ((if headIs p cursor.rest then _ else _ :
          Reader (List α)) cursor).1.length ≤ _
        rw [if_neg hp]
        exact Nat.zero_le _

/-- There are no more tokens than characters. -/
theorem length_tokens (cs : List Char) :
    (tokens cs).1.length ≤ cs.length := by
  fun_induction tokens cs with
  | case1 => exact Nat.le_refl _
  | case2 c rest after found sound hfound hscan _ hshort ih
  | case4 c rest after found sound hfound hscan _ hshort ih =>
      rw [hfound] at ih
      exact Nat.le_succ_of_le (Nat.le_trans ih hshort)
  | case3 c rest after found sound hfound token hscan _ hshort ih =>
      rw [hfound] at ih
      exact Nat.succ_le_succ (Nat.le_trans ih hshort)

/-- Leaving out what comes later makes no list longer. -/
theorem length_firsts {α : Type} (name : α → Name) (items : List α) :
    (firsts name items).length ≤ items.length := by
  have hadd (kept : List α) : (items.foldl (addNew name) kept).length
      ≤ kept.length + items.length := by
    induction items generalizing kept with
    | nil => exact Nat.le_refl _
    | cons item items ih =>
        have hstep : (addNew name kept item).length ≤ kept.length + 1 := by
          unfold addNew
          split
          · exact Nat.le_succ _
          · simp
        have := ih (addNew name kept item)
        rw [List.foldl_cons, List.length_cons]
        omega
  exact Nat.le_trans (hadd []) (Nat.le_of_eq (Nat.zero_add _))

/-- A document has no more types than characters, but for those that every
schema has. -/
theorem length_read (text : String) :
    (read text).types.length ≤ 13 + text.length := by
  have hitems := length_manyWithin (fun _ => true) readItem
    (tokens text.toList).1
    ⟨(tokens text.toList).1,
      (tokens text.toList).2 && !(tokens text.toList).1.isEmpty⟩
  have htokens := length_tokens text.toList
  have hdefinitions : (definitions (readDocument text).1).length
      ≤ (readDocument text).1.length := List.length_filterMap_le _ _
  have hfirsts := length_firsts Definition.name
    (Builtin.types ++ definitions (readDocument text).1)
  show ((defined (readDocument text).1).map _).length ≤ _
  rw [List.length_append] at hfirsts
  rw [List.length_map]
  rw [String.length_toList] at htokens
  refine Nat.le_trans hfirsts (Nat.add_le_add (Nat.le_refl 13) ?_)
  exact Nat.le_trans hdefinitions (Nat.le_trans hitems htokens)

end Sdl

namespace CommandLine

/-- A schema has no more types than its text has characters, but for those
that every schema has. -/
theorem length_loadSchema {path text : String} {types : List TypeDef}
    (h : (loadSchema path text).2 = .ok types) :
    types.length ≤ 13 + text.length := by
  rw [loadSchema_snd] at h
  split at h
  · cases hload : Introspection.load text with
    | error error => rw [hload] at h; cases h
    | ok found =>
        rw [hload] at h
        cases h
        exact Nat.le_trans (Introspection.length_load hload)
          (Nat.le_add_left _ _)
  · cases hload : Sdl.load text with
    | error error => rw [hload] at h; cases h
    | ok found =>
        rw [hload] at h
        cases h
        rw [Sdl.described_of_load hload, List.length_map]
        exact Sdl.length_read text

end CommandLine

end SchemaDocs
