/-
What markup makes of a text.

A row of a table is cut at pipes, and a link's address ends at a
parenthesis. A pipe with a backslash before it does not cut, and a
parenthesis that closes another one does not end an address. So an
address is read back from a link if it holds no blanks and its own
parentheses are balanced (`address_append`), and only balanced addresses
are read at all (`of_address`). Both hold of a column up to its end
(`address_column_eq_iff`).
-/
import Mathlib.Data.List.TakeWhile
import SchemaDocs.Text.Line

namespace SchemaDocs.Text

variable {a b cs : List Char} {c last : Char} {depth : Nat}

-- =============================================================== pipes

/-- The number of pipes that do not stand behind a backslash, where `last`
stands before the text. -/
def barePipesAfter (last : Char) : List Char → Nat
  | [] => 0
  | c :: rest =>
      (if c = '|' ∧ last ≠ '\\' then 1 else 0) + barePipesAfter c rest

/-- The number of pipes that do not stand behind a backslash. -/
def barePipes (line : List Char) : Nat := barePipesAfter '\n' line

/-- Behind a blank it does not matter what was before. -/
theorem barePipesAfter_blank (last : Char) (b : List Char) :
    barePipesAfter last (' ' :: b) = barePipesAfter ' ' b := by
  rw [barePipesAfter, if_neg (by simp), Nat.zero_add]

/-- Where there are no backslashes, every pipe counts. -/
theorem barePipesAfter_append (hlast : last ≠ '\\') (h : '\\' ∉ a)
    (b : List Char) :
    barePipesAfter last (a ++ b)
      = a.count '|' + barePipesAfter (a.getLastD last) b := by
  induction a generalizing last with
  | nil => simp
  | cons c a ih =>
      rw [List.mem_cons, not_or] at h
      have hc : (if c = '|' ∧ last ≠ '\\' then 1 else 0)
          = if c == '|' then 1 else 0 := by simp [hlast]
      rw [List.cons_append, barePipesAfter, ih (Ne.symm h.1) h.2, hc,
        List.count_cons, List.getLastD_cons]
      omega

theorem barePipes_eq_count (h : '\\' ∉ a) : barePipes a = a.count '|' := by
  have hall : barePipesAfter '\n' (a ++ []) = a.count '|' + 0 :=
    barePipesAfter_append (by decide) h []
  rwa [List.append_nil] at hall

/-- A text whose pipes are escaped has none that count. -/
theorem barePipesAfter_escapePipes (last : Char) (cs b : List Char) :
    barePipesAfter last (escapePipes cs ++ ' ' :: b)
      = barePipesAfter ' ' b := by
  induction cs generalizing last with
  | nil => exact barePipesAfter_blank last b
  | cons c cs ih =>
      rw [escapePipes_cons]
      by_cases hc : c = '|'
      · simp [hc, barePipesAfter, ih]
      · simp [hc, barePipesAfter, ih]

-- ============================================================= columns

/-- What stands before the first pipe that cuts. A pipe with a backslash
before it means the pipe. -/
def column : List Char → List Char
  | '\\' :: '|' :: rest => '|' :: column rest
  | '|' :: _ => []
  | c :: rest => c :: column rest
  | [] => []

theorem column_cons (h : c ≠ '\\') (cs : List Char) :
    column (c :: cs) = if c = '|' then [] else c :: column cs := by
  split
  · next hc => rw [hc, column]
  · next hc =>
      cases cs with
      | nil => rw [column] <;> simp_all
      | cons d cs => rw [column] <;> simp_all

/-- A text without pipes stands in one column. -/
theorem column_append (hslash : '\\' ∉ a) (hpipe : '|' ∉ a) (b : List Char) :
    column (a ++ b) = a ++ column b := by
  induction a with
  | nil => rfl
  | cons c a ih =>
      rw [List.mem_cons, not_or] at hslash hpipe
      rw [List.cons_append, column_cons (Ne.symm hslash.1),
        if_neg (Ne.symm hpipe.1), ih hslash.2 hpipe.2, List.cons_append]

/-- Where there are no backslashes, a column ends at the first pipe. -/
theorem column_of_pipe (hslash : '\\' ∉ a) (hpipe : '|' ∈ a) (b : List Char) :
    column (a ++ b) = a.takeWhile (· ≠ '|') := by
  induction a with
  | nil => cases hpipe
  | cons c a ih =>
      rw [List.mem_cons, not_or] at hslash
      rw [List.cons_append, column_cons (Ne.symm hslash.1)]
      by_cases hc : c = '|'
      · simp [hc]
      · have hrest : '|' ∈ a := by
          rcases List.mem_cons.mp hpipe with rfl | hrest
          · exact absurd rfl hc
          · exact hrest
        simp [hc, ih hslash.2 hrest]

-- ========================================================= parentheses

/-- How many parentheses are open behind a character, unless it closes one
that was not opened. -/
def turn (depth : Nat) (c : Char) : Option Nat :=
  if c = '(' then some (depth + 1)
  else if c = ')' then if depth = 0 then none else some (depth - 1)
  else some depth

/-- Every parenthesis of the text has its other half. -/
def Balanced (cs : List Char) : Prop := cs.foldlM turn 0 = some 0

instance : DecidablePred Balanced := fun cs =>
  inferInstanceAs (Decidable (cs.foldlM turn 0 = some 0))

theorem foldlM_turn_of_not_mem (hopen : '(' ∉ cs) (hclose : ')' ∉ cs)
    (depth : Nat) : cs.foldlM turn depth = some depth := by
  induction cs with
  | nil => rfl
  | cons c cs ih =>
      rw [List.mem_cons, not_or] at hopen hclose
      rw [List.foldlM_cons, turn, if_neg (Ne.symm hopen.1),
        if_neg (Ne.symm hclose.1)]
      exact ih hopen.2 hclose.2

/-- Text without parentheses does not matter. -/
theorem balanced_append_iff (hopen : '(' ∉ b) (hclose : ')' ∉ b) :
    Balanced (a ++ b) ↔ Balanced a := by
  unfold Balanced
  rw [List.foldlM_append]
  cases a.foldlM turn 0 with
  | none => rfl
  | some depth =>
      show b.foldlM turn depth = some 0 ↔ _
      rw [foldlM_turn_of_not_mem hopen hclose]

-- =========================================================== addresses

/-- The address of a link, out of the text from its first character on. It
ends at a parenthesis that closes none of its own, and holds no blanks. -/
def address (depth : Nat) : List Char → Option (List Char)
  | [] => none
  | c :: rest =>
      match turn depth c with
      | none => some []
      | some inner =>
          if 0x20 < c.toNat ∧ c.toNat ≠ 0x7F then
            (address inner rest).map (c :: ·)
          else none

/-- An address is read up to the parenthesis behind it. -/
theorem address_append (hturn : cs.foldlM turn depth = some 0)
    (hvisible : ∀ c ∈ cs, 0x20 < c.toNat ∧ c.toNat ≠ 0x7F) (b : List Char) :
    address depth (cs ++ ')' :: b) = some cs := by
  induction cs generalizing depth with
  | nil =>
      obtain rfl := Option.some.inj hturn
      rfl
  | cons c cs ih =>
      obtain ⟨hc, hcs⟩ := List.forall_mem_cons.mp hvisible
      rw [List.foldlM_cons] at hturn
      rw [List.cons_append, address]
      cases hinner : turn depth c with
      | none =>
          rw [hinner] at hturn
          cases hturn
      | some inner =>
          rw [hinner] at hturn
          simp only [if_pos hc, ih hturn hcs, Option.map_some]

/-- A parenthesis has nothing to close only where none is open. -/
theorem eq_zero_of_turn (h : turn depth c = none) : depth = 0 := by
  unfold turn at h
  split at h
  · cases h
  · split at h
    · split at h
      · assumption
      · cases h
    · cases h

/-- What is read as an address is balanced, and it is part of the text. -/
theorem of_address (h : address depth cs = some a) :
    a.foldlM turn depth = some 0 ∧ a ⊆ cs := by
  induction cs generalizing depth a with
  | nil => cases h
  | cons c cs ih =>
      rw [address] at h
      split at h
      · next hturn =>
          obtain rfl := Option.some.inj h
          exact ⟨congrArg some (eq_zero_of_turn hturn), List.nil_subset _⟩
      · next inner hturn =>
          split at h
          · obtain ⟨rest, hrest, rfl⟩ := Option.map_eq_some_iff.mp h
            obtain ⟨hbalanced, hmem⟩ := ih hrest
            refine ⟨?_, List.cons_subset_cons c hmem⟩
            rw [List.foldlM_cons, hturn]
            exact hbalanced
          · cases h

/-- In a column an address is read from its first character on if no pipe
cuts it and its parentheses are balanced, and in no other case. -/
theorem address_column_eq_iff (hslash : '\\' ∉ a)
    (hvisible : ∀ c ∈ a, 0x20 < c.toNat ∧ c.toNat ≠ 0x7F) (b : List Char) :
    address 0 (column (a ++ ')' :: b)) = some a ↔ '|' ∉ a ∧ Balanced a := by
  constructor
  · intro h
    obtain ⟨hbalanced, hmem⟩ := of_address h
    refine ⟨fun hpipe => ?_, hbalanced⟩
    rw [column_of_pipe hslash hpipe] at hmem
    have hkept := List.mem_takeWhile_imp (hmem hpipe)
    simp at hkept
  · rintro ⟨hpipe, hbalanced⟩
    have hclose : column (')' :: b) = ')' :: column b := by
      rw [column_cons (by decide), if_neg (by decide)]
    rw [column_append hslash hpipe, hclose]
    exact address_append hbalanced hvisible _

end SchemaDocs.Text
