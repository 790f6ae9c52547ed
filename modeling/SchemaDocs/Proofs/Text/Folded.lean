/-
Folded text and escaped pipes.

A description is put on one line before it is shown, and in the cell of a
table its pipes are escaped as well. Line breaks are folded in two rounds,
which is what one reading from the left makes of them (`foldBreaks`): a
break is a carriage return with the line feed after it, or either of them
alone. The text before the escape is got back by taking the backslash
before each pipe away (`unescapePipes`), whatever backslashes it had of
its own. So a cell loses nothing of a description but its line breaks
(`descriptions_are_kept`).

# How the proof goes

The first round leaves no pair, and the second puts nothing but spaces in,
so that no round works on what another made; both are followed along the
one reading (`foldSingles_foldPairs`). For the escape it matters that no
escaped text starts with a pipe (`escapePipes_ne_pipe`): a backslash of
the text is never taken for one that was put before a pipe.
-/
import SchemaDocs.Text.Line

namespace SchemaDocs.Text

-- ========================================================= line breaks

/-- The text with a space for each line break, read once from the left. -/
def foldBreaks : List Char → List Char
  | [] => []
  | '\r' :: '\n' :: rest => ' ' :: foldBreaks rest
  | '\r' :: rest => ' ' :: foldBreaks rest
  | '\n' :: rest => ' ' :: foldBreaks rest
  | c :: rest => c :: foldBreaks rest

/-- The two rounds are one reading. -/
theorem foldSingles_foldPairs (cs : List Char) :
    foldSingles (foldPairs cs) = foldBreaks cs := by
  fun_induction foldBreaks cs with
  | case1 => rfl
  | case2 rest ih =>
      rw [foldPairs, foldSingles_cons, ih]
      rfl
  | case3 rest halone ih =>
      rw [foldPairs, foldSingles_cons, ih]
      · rfl
      · exact fun more _ => halone more
  | case4 rest ih =>
      rw [foldPairs, foldSingles_cons, ih]
      · rfl
      · nofun
  | case5 c rest hpair hreturn hfeed ih =>
      have hother : ¬ (c = '\r' ∨ c = '\n') := not_or.mpr ⟨hreturn, hfeed⟩
      rw [foldPairs, foldSingles_cons, ih, if_neg hother]
      exact hpair

/-- A carriage return before a pair is a break of its own. -/
example : foldBreaks ['a', '\r', '\r', '\n', '\n', 'b']
    = ['a', ' ', ' ', ' ', 'b'] := by decide

theorem singleLine_eq (text : String) :
    singleLine text = String.ofList (foldBreaks text.toList) := by
  unfold singleLine
  rw [foldSingles_foldPairs]

/-- A text without line breaks is left as it is. -/
theorem foldBreaks_of_not_mem {cs : List Char} (hreturn : '\r' ∉ cs)
    (hfeed : '\n' ∉ cs) : foldBreaks cs = cs := by
  rw [← foldSingles_foldPairs]
  induction cs with
  | nil => rfl
  | cons c cs ih =>
      rw [List.mem_cons, not_or] at hreturn hfeed
      have hother : ¬ (c = '\r' ∨ c = '\n') :=
        not_or.mpr ⟨Ne.symm hreturn.1, Ne.symm hfeed.1⟩
      rw [foldPairs, foldSingles_cons, if_neg hother, ih hreturn.2 hfeed.2]
      exact fun _ hc => absurd hc.symm hreturn.1

/-- What is on a single line stays as it is. -/
theorem singleLine_singleLine (text : String) :
    singleLine (singleLine text) = singleLine text := by
  rw [singleLine_eq (singleLine text),
    foldBreaks_of_not_mem (not_mem_singleLine (.inl rfl) text)
      (not_mem_singleLine (.inr rfl) text),
    String.ofList_toList]

-- ========================================================= table cells

/-- The text without the backslash before each pipe. -/
def unescapePipes : List Char → List Char
  | [] => []
  | '\\' :: '|' :: rest => '|' :: unescapePipes rest
  | c :: rest => c :: unescapePipes rest

/-- Escaping is undone, also where a backslash was before a pipe. -/
theorem unescapePipes_escapePipes (cs : List Char) :
    unescapePipes (escapePipes cs) = cs := by
  induction cs with
  | nil => rfl
  | cons c cs ih =>
      rw [escapePipes_cons]
      by_cases hc : c = '|'
      · rw [if_pos hc, hc]
        show '|' :: unescapePipes (escapePipes cs) = _
        rw [ih]
      · rw [if_neg hc, List.singleton_append, unescapePipes, ih]
        exact fun rest _ hrest => escapePipes_ne_pipe cs rest hrest

/-- A backslash that was given stays, before a pipe and elsewhere. -/
example : unescapePipes (escapePipes ['a', '\\', '|', '\\', '|', 'b'])
    = ['a', '\\', '|', '\\', '|', 'b'] := by decide

/-- Each pipe of an escaped text has a backslash directly before it. -/
theorem getLast?_of_escapePipes {cs front rest : List Char}
    (h : escapePipes cs = front ++ '|' :: rest) :
    front.getLast? = some '\\' := by
  induction cs generalizing front with
  | nil => cases front <;> cases h
  | cons c cs ih =>
      cases front with
      | nil => exact absurd h (escapePipes_ne_pipe _ rest)
      | cons d front =>
          rw [escapePipes_cons] at h
          by_cases hc : c = '|'
          · rw [if_pos hc] at h
            injection h with hslash h
            cases front with
            | nil => rw [← hslash, List.getLast?_singleton]
            | cons e front =>
                injection h with _ hlater
                rw [List.getLast?_cons, List.getLast?_cons, ih hlater]
                rfl
          · rw [if_neg hc] at h
            injection h with _ hlater
            rw [List.getLast?_cons, ih hlater]
            rfl

/-- Cells are equal exactly where the folded descriptions are. -/
theorem cell_eq_iff {a b : Option String} :
    cell a = cell b
      ↔ singleLine (a.getD "") = singleLine (b.getD "") := by
  constructor
  · exact singleLine_eq_of_cell_eq
  · intro h
    unfold cell
    rw [h]

-- ======================================================== descriptions

/-- What becomes of a text that is put on one line. -/
structure FoldedOnce (text : String) : Prop where
  /-- It is read once, from the left. -/
  reading : singleLine text = String.ofList (foldBreaks text.toList)
  noReturn : '\r' ∉ (singleLine text).toList
  noFeed : '\n' ∉ (singleLine text).toList
  again : singleLine (singleLine text) = singleLine text

/-- What becomes of a description that is put into a cell. -/
structure KeptInCell (description : Option String) : Prop where
  /-- Each pipe has a backslash directly before it. -/
  escaped : ∀ front rest,
    (cell description).toList = front ++ '|' :: rest →
    front.getLast? = some '\\'
  /-- Without these backslashes it is the description on one line. -/
  unescaped : String.ofList (unescapePipes (cell description).toList)
    = singleLine (description.getD "")
  /-- So only descriptions that agree on one line share a cell. -/
  told : ∀ other : Option String, cell description = cell other
    ↔ singleLine (description.getD "") = singleLine (other.getD "")

/-- A text on one line has a space for each of its line breaks and is
otherwise unchanged. Of a description, its cell tells this line. -/
theorem descriptions_are_kept (text : String) (description : Option String) :
    FoldedOnce text ∧ KeptInCell description := by
  constructor
  · exact {
      reading := singleLine_eq text
      noReturn := not_mem_singleLine (.inl rfl) text
      noFeed := not_mem_singleLine (.inr rfl) text
      again := singleLine_singleLine text }
  · refine ⟨fun front rest h => ?_, ?_, fun other => cell_eq_iff⟩
    · rw [toList_cell] at h
      exact getLast?_of_escapePipes h
    · rw [toList_cell, unescapePipes_escapePipes, String.ofList_toList]

end SchemaDocs.Text
