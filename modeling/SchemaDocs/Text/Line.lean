/-
Keeping text on one line.

A description may hold any text, and a markdown table row or a bold
header ends at a line break. `singleLine` folds each line break to one
space: a carriage return followed by a line feed is one break, either of
them alone is one break. `cell` also puts a backslash before each pipe,
so that the text stays inside its table cell.
-/

namespace SchemaDocs.Text

-- ========================================================= line breaks

/-- Writes a space for each carriage return with a line feed after it. -/
def foldPairs : List Char → List Char
  | [] => []
  | '\r' :: '\n' :: rest => ' ' :: foldPairs rest
  | c :: rest => c :: foldPairs rest

/-- Writes a space for each carriage return and each line feed. -/
def foldSingles (cs : List Char) : List Char :=
  cs.map fun c => if c = '\r' ∨ c = '\n' then ' ' else c

theorem foldSingles_cons (c : Char) (cs : List Char) :
    foldSingles (c :: cs)
      = (if c = '\r' ∨ c = '\n' then ' ' else c) :: foldSingles cs := rfl

/-- Every line break becomes one space: first the pairs, then what is left. -/
def singleLine (s : String) : String :=
  String.ofList (foldSingles (foldPairs s.toList))

/-- Breaks of two characters are folded before those of one. -/
theorem toList_singleLine (s : String) :
    (singleLine s).toList = foldSingles (foldPairs s.toList) :=
  String.toList_ofList

/-- A folded text has no line breaks. -/
theorem not_mem_singleLine {c : Char} (hc : c = '\r' ∨ c = '\n') (s : String) :
    c ∉ (singleLine s).toList := by
  rw [toList_singleLine, foldSingles, List.mem_map]
  rintro ⟨d, -, hd⟩
  split at hd
  · subst hd
    simp at hc
  · rename_i hbreak
    exact hbreak (hd ▸ hc)

/-- So it is one line. -/
theorem lineFeed_not_mem_singleLine (s : String) :
    '\n' ∉ (singleLine s).toList :=
  not_mem_singleLine (.inr rfl) s

-- ========================================================= table cells

/-- Puts a backslash before each pipe. -/
def escapePipes (cs : List Char) : List Char :=
  cs.flatMap fun c => if c = '|' then ['\\', '|'] else [c]

theorem escapePipes_cons (c : Char) (cs : List Char) :
    escapePipes (c :: cs)
      = (if c = '|' then ['\\', '|'] else [c]) ++ escapePipes cs := rfl

/-- An escaped text never starts with a pipe. -/
theorem escapePipes_ne_pipe (cs rest : List Char) :
    escapePipes cs ≠ '|' :: rest := by
  cases cs with
  | nil => simp [escapePipes]
  | cons c cs =>
      by_cases hc : c = '|'
      · simp [escapePipes, hc]
      · simp [escapePipes, hc]

/-- Escaping loses nothing: an escaped text is the escape of one text. -/
theorem escapePipes_injective {a b : List Char}
    (h : escapePipes a = escapePipes b) : a = b := by
  induction a generalizing b with
  | nil =>
      cases b with
      | nil => rfl
      | cons d b => rw [escapePipes_cons] at h; split at h <;> cases h
  | cons c a ih =>
      cases b with
      | nil => rw [escapePipes_cons] at h; split at h <;> cases h
      | cons d b =>
          rw [escapePipes_cons, escapePipes_cons] at h
          by_cases hc : c = '|' <;> by_cases hd : d = '|'
          · rw [if_pos hc, if_pos hd] at h
            rw [hc, hd, ih (List.append_cancel_left h)]
          · -- the backslash before a pipe against one that was given
            rw [if_pos hc, if_neg hd] at h
            injection h with _ h
            exact absurd h.symm (escapePipes_ne_pipe b _)
          · rw [if_neg hc, if_pos hd] at h
            injection h with _ h
            exact absurd h (escapePipes_ne_pipe a _)
          · rw [if_neg hc, if_neg hd] at h
            injection h with hcd h
            rw [hcd, ih h]

/-- The text of a description in a table cell; no description is an empty
cell. -/
def cell (description : Option String) : String :=
  String.ofList (escapePipes (singleLine (description.getD "")).toList)

/-- A cell shows a description on a single line, with its pipes escaped. -/
theorem toList_cell (description : Option String) :
    (cell description).toList
      = escapePipes (singleLine (description.getD "")).toList :=
  String.toList_ofList

/-- A cell is one line. -/
theorem lineFeed_not_mem_cell (description : Option String) :
    '\n' ∉ (cell description).toList := by
  rw [toList_cell, escapePipes, List.mem_flatMap]
  rintro ⟨c, hc, hmem⟩
  have hne : c ≠ '\n' := fun h =>
    lineFeed_not_mem_singleLine _ (h ▸ hc)
  split at hmem
  · simp at hmem
  · rw [List.mem_singleton] at hmem
    exact hne hmem.symm

/-- A cell tells the description, up to its line breaks. -/
theorem singleLine_eq_of_cell_eq {a b : Option String}
    (h : cell a = cell b) :
    singleLine (a.getD "") = singleLine (b.getD "") := by
  have hchars := congrArg String.toList h
  rw [toList_cell, toList_cell] at hchars
  exact String.toList_inj.mp (escapePipes_injective hchars)

end SchemaDocs.Text
