/-
The characters of Punycode.

Of a label in Punycode, the ASCII characters stand at the front and the
others are written as small letters, numerals and hyphens. So nothing
comes into a label by writing it that could end it or its name
(`of_mem_encode`), and nothing in ASCII comes into it by reading it
(`of_mem_decode`).
-/
import Mathlib.Data.List.InsertIdx
import SchemaDocs.Url.Domain.Punycode

namespace SchemaDocs.Url.Punycode

variable {c : Char} {label : List Char}

-- ============================================================= writing

/-- The character is a digit of base 36. -/
def IsDigit36 (c : Char) : Prop := ∃ d < 36, c = digitChar d

/-- A number is written in digits of base 36. -/
theorem of_mem_writeNumber {bias place n : Nat}
    (h : c ∈ writeNumber bias place n) : IsDigit36 c := by
  have hpos := threshold_pos bias place
  have hle := threshold_le bias place
  fun_induction writeNumber bias place n with
  | case1 place n t hlt =>
      exact ⟨n, by omega, List.mem_singleton.mp h⟩
  | case2 place n t hge ih =>
      rcases List.mem_cons.mp h with rfl | h
      · have hmod : (n - t) % (36 - t) < 36 - t := Nat.mod_lt _ (by omega)
        exact ⟨_, by omega, rfl⟩
      · exact ih h (threshold_pos bias _) (threshold_le bias _)

/-- Going past a character writes nothing but a number. -/
theorem of_mem_visit {basics point : Nat} {w : Writer} {d : Char}
    (h : c ∈ (w.visit basics point d).digits) :
    c ∈ w.digits ∨ IsDigit36 c := by
  unfold Writer.visit at h
  split at h
  · exact .inl h
  · split at h
    · rcases List.mem_append.mp h with h | h
      · exact .inl h
      · exact .inr (of_mem_writeNumber h)
    · exact .inl h

/-- A pass over the label writes digits only. -/
theorem of_mem_foldl_visit {basics point : Nat} {w : Writer}
    (h : c ∈ (label.foldl (Writer.visit basics point) w).digits) :
    c ∈ w.digits ∨ IsDigit36 c := by
  induction label generalizing w with
  | nil => exact .inl h
  | cons d label ih =>
      rcases ih h with hvisit | hdigit
      · exact of_mem_visit hvisit
      · exact .inr hdigit

/-- So do all passes together. -/
theorem of_mem_place {basics : Nat} {points : List Nat} {next : Nat}
    {w : Writer} (h : c ∈ (Writer.place label basics points next w).digits) :
    c ∈ w.digits ∨ IsDigit36 c := by
  induction points generalizing next w with
  | nil => exact .inl h
  | cons point points ih =>
      rcases ih h with hpass | hdigit
      · rcases of_mem_foldl_visit hpass with hbefore | hdigit
        · exact .inl hbefore
        · exact .inr hdigit
      · exact .inr hdigit

/-- The characters of a label in Punycode are those that were ASCII, and
besides them digits and hyphens. -/
theorem of_mem_encode (h : c ∈ encode label) :
    (c ∈ label ∧ c.toNat < 128) ∨ c = '-' ∨ IsDigit36 c := by
  unfold encode at h
  simp only [List.mem_append] at h
  rcases h with (hbasic | hmark) | hdigits
  · obtain ⟨hmem, hlt⟩ := List.mem_filter.mp hbasic
    exact .inl ⟨hmem, of_decide_eq_true hlt⟩
  · split at hmark
    · cases hmark
    · exact .inr (.inl (List.mem_singleton.mp hmark))
  · rcases of_mem_place hdigits with hnone | hdigit
    · cases hnone
    · exact .inr (.inr hdigit)

-- ============================================================= reading

/-- What is inserted is beyond ASCII. -/
theorem of_mem_insertAll {point place bias : Nat} {first : Bool}
    {cs made : List Char} (hpoint : 128 ≤ point)
    (h : insertAll label point place bias first cs = some made)
    (hc : c ∈ made) : c ∈ label ∨ 128 ≤ c.toNat := by
  fun_induction insertAll label point place bias first cs with
  | case1 label point place bias first cs hempty =>
      obtain rfl : label = made := Option.some.inj h
      exact .inl hc
  | case2 => cases h
  | case3 label point place bias first cs hne n rest hread hshort size next
      spot hvalid ih =>
      have hnext : 128 ≤ next := Nat.le_trans hpoint (Nat.le_add_right _ _)
      rcases ih hnext h with hmem | hbeyond
      · rcases List.eq_or_mem_of_mem_insertIdx hmem with rfl | hmem
        · have hcode : (Char.ofNat next).toNat = next := by
            rw [Char.ofNat, dif_pos hvalid]
            rfl
          exact .inr (hcode.symm ▸ hnext)
        · exact .inl hmem
      · exact .inr hbeyond
  | case4 => cases h

/-- The ASCII characters of a label that Punycode writes stand in it. -/
theorem of_mem_decode {cs : List Char} (h : decode cs = some label)
    (hc : c ∈ label) : c ∈ cs ∨ 128 ≤ c.toNat := by
  unfold decode at h
  simp only [] at h
  split at h
  · rcases of_mem_insertAll (Nat.le_refl _) h hc with hnil | hbeyond
    · cases hnil
    · exact .inr hbeyond
  · split at h
    · rcases of_mem_insertAll (Nat.le_refl _) h hc with hhead | hbeyond
      · exact .inl (List.mem_of_mem_take hhead)
      · exact .inr hbeyond
    · cases h

end SchemaDocs.Url.Punycode
