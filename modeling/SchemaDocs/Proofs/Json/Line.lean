/-
Written JSON is one line.

The text of a value holds no control character (`visible_write`), so no
line break either: between values there are no blanks, and inside a
string every control character is escaped. A line feed behind the text
makes a line of it.

What is then looked up in a document does not depend on the order of its
members (`get?_sortedObject`), as long as no key repeats.
-/
import SchemaDocs.Proofs.Json.Roundtrip

namespace SchemaDocs.Json

-- ============================================================ characters

/-- Whether the character is no control character of ASCII. -/
def Visible (c : Char) : Prop := 0x20 ≤ c.toNat

instance (c : Char) : Decidable (Visible c) :=
  inferInstanceAs (Decidable (_ ≤ _))

theorem visible_of_all {cs : List Char}
    (h : cs.all (fun c => decide (Visible c)) = true) :
    ∀ d ∈ cs, Visible d := fun d hd =>
  of_decide_eq_true (List.all_eq_true.mp h d hd)

/-- Digits are visible. -/
theorem visible_of_isDigit {c : Char} (h : c.isDigit = true) :
    Visible c := by
  unfold Char.isDigit at h
  simp only [Bool.and_eq_true, decide_eq_true_eq] at h
  exact Nat.le_trans (by decide) (UInt32.le_iff_toNat_le.mp h.1)

theorem visible_hexLower : ∀ n < 16, Visible (Text.hexLower n) := by decide

/-- What is not visible is escaped. -/
theorem visible_escape (c : Char) : ∀ d ∈ escape c, Visible d := by
  unfold escape
  repeat' split
  any_goals (refine visible_of_all ?_; decide)
  · have hhigh := visible_hexLower (c.toNat / 16) (by omega)
    have hlow := visible_hexLower (c.toNat % 16) (by omega)
    simp only [List.mem_cons, List.not_mem_nil, or_false, forall_eq_or_imp,
      forall_eq]
    exact ⟨by decide, by decide, by decide, by decide, hhigh, hlow⟩
  · next hcontrol =>
      intro d hd
      rw [List.mem_singleton.mp hd]
      exact Nat.le_of_not_lt hcontrol

/-- A quoted text is visible, whatever the text is. -/
theorem visible_quote (text : String) : ∀ d ∈ quote text, Visible d := by
  intro d hd
  rcases List.mem_cons.mp hd with rfl | hd
  · decide
  rcases List.mem_append.mp hd with hd | hd
  · obtain ⟨c, -, hc⟩ := List.mem_flatMap.mp hd
    exact visible_escape c d hc
  · rw [List.mem_singleton.mp hd]
    decide

/-- So is a whole number, with its sign. -/
theorem visible_writeInt (n : Int) : ∀ d ∈ writeInt n, Visible d := by
  have hdigits : ∀ d ∈ Nat.toDigits 10 n.natAbs, Visible d := fun d hd =>
    visible_of_isDigit (isDigit_of_mem_digits hd)
  unfold writeInt
  split
  · intro d hd
    rcases List.mem_cons.mp hd with rfl | hd
    · decide
    · exact hdigits d hd
  · exact hdigits

-- ============================================================= documents

/-- Pieces are visible with the marks between them when they are visible
alone. -/
theorem visible_separated {closing : Char} (hclosing : Visible closing)
    {pieces : List (List Char)}
    (h : ∀ piece ∈ pieces, ∀ d ∈ piece, Visible d) :
    ∀ d ∈ separated closing pieces, Visible d := by
  induction pieces with
  | nil =>
      intro d hd
      rw [List.mem_singleton.mp hd]
      exact hclosing
  | cons piece pieces ih =>
      have hpiece := h piece List.mem_cons_self
      cases pieces with
      | nil =>
          intro d hd
          rcases List.mem_append.mp hd with hd | hd
          · exact hpiece d hd
          · rw [List.mem_singleton.mp hd]
            exact hclosing
      | cons second pieces =>
          have hmore := ih fun p hp => h p (List.mem_cons_of_mem _ hp)
          intro d hd
          rcases List.mem_append.mp hd with hd | hd
          · exact hpiece d hd
          rcases List.mem_cons.mp hd with rfl | hd
          · decide
          · exact hmore d hd

/-- All that is written is visible. -/
theorem visible_write : ∀ json : Json, ∀ d ∈ write json, Visible d
  | null | bool true | bool false => visible_of_all (by decide)
  | number mantissa exponent => by
      intro d hd
      rw [write] at hd
      split at hd
      · exact visible_writeInt mantissa d hd
      rcases List.mem_append.mp hd with hd | hd
      · exact visible_writeInt mantissa d hd
      rcases List.mem_cons.mp hd with rfl | hd
      · decide
      · exact visible_writeInt exponent d hd
  | string text => by
      rw [write]
      exact visible_quote text
  | array items => by
      have hitems : ∀ piece ∈ items.map write, ∀ d ∈ piece, Visible d := by
        simp only [List.mem_map, forall_exists_index, and_imp]
        rintro _ item hitem rfl
        exact visible_write item
      rw [write, writeItems_eq]
      exact List.forall_mem_cons.mpr
        ⟨by decide, visible_separated (by decide) hitems⟩
  | object members => by
      have hmembers : ∀ piece ∈ members.map writeMember,
          ∀ d ∈ piece, Visible d := by
        simp only [List.mem_map, forall_exists_index, and_imp]
        rintro _ ⟨key, value⟩ hentry rfl d hd
        rcases List.mem_append.mp hd with hd | hd
        · exact visible_quote key d hd
        rcases List.mem_cons.mp hd with rfl | hd
        · decide
        · exact visible_write value d hd
      rw [write, writeMembers_eq]
      exact List.forall_mem_cons.mpr
        ⟨by decide, visible_separated (by decide) hmembers⟩
termination_by json => sizeOf json
decreasing_by
  · have hsize := List.sizeOf_lt_of_mem hitem
    simp only [array.sizeOf_spec]
    omega
  · have hsize := List.sizeOf_lt_of_mem hentry
    simp only [object.sizeOf_spec, Prod.mk.sizeOf_spec] at hsize ⊢
    omega

/-- The order of members does not matter where no key repeats. -/
theorem get?_sortedObject {members : List (String × Json)} {key : String}
    {value : Json} (hkeys : (members.map Prod.fst).Nodup)
    (h : (key, value) ∈ members) :
    (sortedObject members).get? key = some value := by
  have hperm := List.mergeSort_perm members
    fun a b => decide (a.1 ≤ b.1)
  exact lookup_of_mem ((hperm.map Prod.fst).nodup_iff.mpr hkeys)
    (hperm.mem_iff.mpr h)

end SchemaDocs.Json
