/-
What tables say of ASCII.

The tables over code points are long, and most of what they hold is of no
concern to the texts that are common. What a table says of an ASCII
character stands in its first rows: rows are written with growing places,
and a search by halving never comes back with a row beyond what was
sought (`mem_of_seek`). So the rows behind need not be looked at. In this
way ASCII texts are seen to be lowered letter by letter, without a look
at their contexts (`lower_of_ascii`).
-/
import SchemaDocs.Unicode.Lower

namespace SchemaDocs.Unicode

-- =========================================================== characters

/-- What holds of every ASCII code holds of every ASCII character. -/
theorem of_ascii {P : Char → Prop} (h : ∀ n < 128, P (Char.ofNat n)) {c : Char}
    (hc : c.toNat < 128) : P c := by
  have hcode := h c.toNat hc
  rwa [Char.ofNat_toNat] at hcode

-- ============================================================ searching

section Search

variable {α : Type} {key : α → Nat} {rows : Array α} {n low high : Nat}
  {row : α}

/-- What a search finds is a row whose key is not beyond what was sought. -/
theorem mem_of_seek (h : seek key rows n low high = some row) :
    row ∈ rows.toList ∧ key row ≤ n := by
  fun_induction seek key rows n low high with
  | case1 low high _ middle row hrow hle ih => exact ih h
  | case2 low high _ middle row hrow hle ih => exact ih h
  | case3 => cases h
  | case4 low high _ row' hrow hle =>
      obtain rfl : row' = row := Option.some.inj h
      exact ⟨Array.mem_toList_iff.mpr (Array.mem_of_getElem? hrow), hle⟩
  | case5 => cases h
  | case6 => cases h

/-- A search finds something if its first row is not beyond what is sought. -/
theorem exists_of_seek (hlow : ∃ row, rows[low]? = some row ∧ key row ≤ n)
    (hhigh : high ≤ rows.size) :
    ∃ row, seek key rows n low high = some row := by
  fun_induction seek key rows n low high with
  | case1 low high _ middle row hrow hle ih => exact ih ⟨row, hrow, hle⟩ hhigh
  | case2 low high hlt middle row hrow hle ih => exact ih hlow (by omega)
  | case3 low high hlt middle hnone =>
      have hbeyond := Array.getElem?_eq_none_iff.mp hnone
      omega
  | case4 low high _ row hrow hle => exact ⟨row, rfl⟩
  | case5 low high _ row hrow hle =>
      obtain ⟨first, hfirst, hbelow⟩ := hlow
      obtain rfl : row = first := Option.some.inj (hrow.symm.trans hfirst)
      exact absurd hbelow hle
  | case6 low high _ hnone =>
      obtain ⟨first, hfirst, -⟩ := hlow
      rw [hnone] at hfirst
      cases hfirst

end Search

-- =========================================================== lower case

/-- Runs that are read from a place on start there or behind. -/
theorem le_of_mem_readShifts {place : Nat} {numbers : List Nat}
    {row : Nat × Nat × Nat × Int} (h : row ∈ readShifts place numbers) :
    place ≤ row.1 := by
  fun_induction readShifts place numbers with
  | case1 place gap shape distance rest first stride last shift ih =>
      rcases List.mem_cons.mp h with rfl | h
      · exact Nat.le_add_right _ _
      · have := ih h
        omega
  | case2 => cases h

/-- Of runs that start with the capitals of ASCII, and then go beyond it,
only the capitals matter to a character of ASCII. -/
theorem Shifts.find?_of_ascii {shifts : Shifts} {later : List Nat}
    (hrows : shifts.rows.toList
      = (65, 90, 1, 32) :: (192, 214, 1, 32) :: readShifts 215 later)
    {c : Char} (hc : c.toNat < 128) :
    shifts.find? c
      = if 65 ≤ c.toNat ∧ c.toNat ≤ 90 then some (Char.ofNat (c.toNat + 32))
        else none := by
  have hnear : ∀ row ∈ shifts.rows.toList, row.1 ≤ c.toNat →
      row = (65, 90, 1, 32) := by
    intro row hrow hle
    rw [hrows, List.mem_cons, List.mem_cons] at hrow
    rcases hrow with rfl | rfl | hrow
    · rfl
    · exact absurd hle (by omega)
    · have hbehind := le_of_mem_readShifts hrow
      omega
  have hfirst : shifts.rows[0]? = some (65, 90, 1, 32) := by
    rw [← Array.getElem?_toList, hrows]
    rfl
  unfold Shifts.find?
  cases hseek : seek Prod.fst shifts.rows c.toNat 0 shifts.rows.size with
  | none =>
      have hbefore : ¬ 65 ≤ c.toNat := by
        intro hle
        have hstart : ∃ row, shifts.rows[0]? = some row
            ∧ Prod.fst row ≤ c.toNat := ⟨_, hfirst, hle⟩
        obtain ⟨row, hrow⟩ := exists_of_seek hstart (Nat.le_refl _)
        rw [hseek] at hrow
        cases hrow
      exact (if_neg fun hrange => hbefore hrange.1).symm
  | some row =>
      obtain ⟨hrow, hle⟩ := mem_of_seek hseek
      obtain rfl := hnear row hrow hle
      have hfrom : 65 ≤ c.toNat := hle
      have hmoved : ((c.toNat : Int) + 32).toNat = c.toNat + 32 := by omega
      simp only [hmoved, Nat.mod_one, and_true, hfrom, true_and]

/-- The lower-case forms are such runs. -/
theorem lowerForms_rows :
    ∃ later, lowerForms.rows.toList
      = (65, 90, 1, 32) :: (192, 214, 1, 32) :: readShifts 215 later := by
  obtain ⟨line, lines, htable, hline⟩ : ∃ line lines,
      lowerForms = .ofLines (line :: lines)
        ∧ (numbersOnLine line).take 6 = [65, 52, 64, 101, 46, 64] :=
    ⟨_, _, rfl, by decide +kernel⟩
  have hrows : lowerForms.rows.toList
      = readShifts 0 (numbersOnLine line ++ numbers lines) := by
    rw [htable]
    rfl
  rw [hrows, ← List.take_append_drop 6 (numbersOnLine line), hline]
  exact ⟨(numbersOnLine line).drop 6 ++ numbers lines, rfl⟩

/-- A character of ASCII is lowered by itself. -/
theorem lowerAt_of_ascii {c : Char} (hc : c.toNat < 128)
    (before after : List Char) : lowerAt before c after = [c.toLower] := by
  have hplain : c ≠ '\u03a3' ∧ c ≠ '\u0130' := by
    constructor <;> rintro rfl <;> exact absurd hc (by decide)
  have hletter : (if 65 ≤ c.toNat ∧ c.toNat ≤ 90
      then some (Char.ofNat (c.toNat + 32)) else none).getD c = c.toLower :=
    of_ascii (P := fun c => (if 65 ≤ c.toNat ∧ c.toNat ≤ 90
      then some (Char.ofNat (c.toNat + 32)) else none).getD c = c.toLower)
      (by decide) hc
  obtain ⟨later, hrows⟩ := lowerForms_rows
  unfold lowerAt
  rw [if_neg hplain.1, if_neg hplain.2, Shifts.find?_of_ascii hrows hc,
    hletter]

theorem lowerAfter_of_ascii {cs : List Char} (h : ∀ c ∈ cs, c.toNat < 128)
    (before : List Char) : lowerAfter before cs = cs.map Char.toLower := by
  induction cs generalizing before with
  | nil => rfl
  | cons c cs ih =>
      rw [lowerAfter, lowerAt_of_ascii (h c List.mem_cons_self),
        ih fun d hd => h d (List.mem_cons_of_mem c hd)]
      rfl

/-- An ASCII text is lowered letter by letter. -/
theorem lower_of_ascii {text : String}
    (h : (text.toList.all fun c => decide (c.toNat < 128)) = true) :
    lower text = String.ofList (text.toList.map Char.toLower) := by
  have hascii : ∀ c ∈ text.toList, c.toNat < 128 := fun c hc =>
    of_decide_eq_true (List.all_eq_true.mp h c hc)
  unfold lower
  rw [lowerAfter_of_ascii hascii]

end SchemaDocs.Unicode
