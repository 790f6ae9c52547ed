/-
Lines of a text.

Tables and listings are written line by line, and what they say is read
back line by line. A text is made of whole lines if it ends in a line
feed (`EndsLine`), and it is one line if that is its only one (`IsLine`).
Texts of whole lines that are joined keep their lines
(`lines_join_of_endsLine`), whatever else stands in them.
-/

namespace SchemaDocs.Text

-- ========================================================= whole lines

/-- The text ends in a line feed. -/
def EndsLine (text : String) : Prop := text.toList.getLast? = some '\n'

instance (text : String) : Decidable (EndsLine text) :=
  inferInstanceAs (Decidable (_ = _))

theorem EndsLine.exists_front {text : String} (h : EndsLine text) :
    ∃ front, text.toList = front ++ ['\n'] :=
  List.getLast?_eq_some_iff.mp h

/-- It goes on doing so with more text in front. -/
theorem EndsLine.append_left {text : String} (h : EndsLine text)
    (front : String) : EndsLine (front ++ text) := by
  unfold EndsLine at h ⊢
  rw [String.toList_append, List.getLast?_append, h]
  rfl

theorem EndsLine.ne_empty {text : String} (h : EndsLine text) : text ≠ "" := by
  rintro rfl
  cases h

-- ============================================================ one line

/-- A line without its line feed. -/
def line (text : String) : List Char := text.toList.dropLast

/-- The text ends in a line feed and holds no other. -/
structure IsLine (text : String) : Prop where
  ends : text.toList = line text ++ ['\n']
  once : '\n' ∉ line text

instance (text : String) : Decidable (IsLine text) :=
  decidable_of_iff (_ ∧ _) ⟨fun h => ⟨h.1, h.2⟩, fun h => ⟨h.ends, h.once⟩⟩

/-- A line ends a line. -/
theorem IsLine.endsLine {text : String} (h : IsLine text) : EndsLine text :=
  List.getLast?_eq_some_iff.mpr ⟨_, h.ends⟩

/-- What stands on a line stands before its line feed. -/
theorem isLine_of_toList_eq {text : String} {cs : List Char}
    (h : text.toList = cs ++ ['\n']) (hcs : '\n' ∉ cs) :
    IsLine text ∧ line text = cs := by
  have hline : line text = cs := by
    unfold line
    rw [h, List.dropLast_concat]
  exact ⟨⟨hline ▸ h, hline ▸ hcs⟩, hline⟩

/-- A line goes on being one with more text in front. -/
theorem IsLine.append_left {front text : String} (h : IsLine text)
    (hfront : '\n' ∉ front.toList) :
    IsLine (front ++ text) ∧ line (front ++ text) = front.toList
      ++ line text := by
  apply isLine_of_toList_eq
  · rw [String.toList_append, h.ends, List.append_assoc]
  · rw [List.mem_append, not_or]
    exact ⟨hfront, h.once⟩

-- =============================================================== lines

/-- The lines of a text. What stands behind the last line feed is a line
as well, unless nothing does. -/
def lines : List Char → List (List Char)
  | [] => []
  | c :: rest =>
      if c = '\n' then [] :: lines rest
      else
        match lines rest with
        | [] => [[c]]
        | first :: more => (c :: first) :: more

/-- A text that is not empty has a line. -/
theorem lines_ne_nil {cs : List Char} (h : cs ≠ []) : lines cs ≠ [] := by
  cases cs with
  | nil => exact absurd rfl h
  | cons c cs =>
      rw [lines]
      split
      · exact List.cons_ne_nil _ _
      · split <;> exact List.cons_ne_nil _ _

/-- Lines that are ended are not changed by what follows. -/
theorem lines_append_lineFeed (front rest : List Char) :
    lines (front ++ '\n' :: rest) = lines (front ++ ['\n']) ++ lines rest := by
  induction front with
  | nil => simp [lines]
  | cons c front ih =>
      rw [List.cons_append, List.cons_append, lines, lines, ih]
      by_cases hc : c = '\n'
      · rw [if_pos hc, if_pos hc, List.cons_append]
      · rw [if_neg hc, if_neg hc]
        cases hfront : lines (front ++ ['\n']) with
        | nil => exact absurd hfront (lines_ne_nil (by simp))
        | cons first more => rfl

/-- Texts of whole lines that are joined keep their lines. -/
theorem lines_join_of_endsLine {texts : List String}
    (h : ∀ text ∈ texts, EndsLine text) :
    lines (String.join texts).toList
      = texts.flatMap fun text => lines text.toList := by
  induction texts with
  | nil => simp [lines]
  | cons text texts ih =>
      have hrest :=
        ih fun other hother => h other (List.mem_cons_of_mem _ hother)
      obtain ⟨front, hfront⟩ := (h text List.mem_cons_self).exists_front
      rw [String.join_cons, String.toList_append, List.flatMap_cons, ← hrest,
        hfront, List.append_assoc, List.singleton_append,
        lines_append_lineFeed]

/-- A line has itself for its only line. -/
theorem lines_concat {cs : List Char} (h : '\n' ∉ cs) :
    lines (cs ++ ['\n']) = [cs] := by
  induction cs with
  | nil => simp [lines]
  | cons c cs ih =>
      rw [List.mem_cons, not_or] at h
      have hc : ¬ c = '\n' := fun heq => h.1 heq.symm
      rw [List.cons_append, lines, if_neg hc, ih h.2]

/-- The lines of joined lines are these lines. -/
theorem lines_join {texts : List String} (h : ∀ text ∈ texts, IsLine text) :
    lines (String.join texts).toList = texts.map line := by
  have hline : ∀ text ∈ texts, lines text.toList = [line text] := by
    intro text htext
    rw [(h text htext).ends, lines_concat (h text htext).once]
  rw [lines_join_of_endsLine fun text htext => (h text htext).endsLine,
    List.flatMap_def, List.map_congr_left hline, ← List.flatMap_def,
    List.map_eq_flatMap]

end SchemaDocs.Text
