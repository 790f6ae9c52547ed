/-
Texts within texts.

A page is searched for a piece of text, to find that it is there or that
it is not. To find a piece it is enough to find it in one part of the
page (`Holds`). To miss it is more to show, for a piece could stand across
two parts, or be brought about by what is done to a text before it is
put into a page. Neither happens to a word, by which is meant a piece
that lacks the characters that stand between parts and the characters
that are written in place of others. A word in a text with a mark in it
stands before the mark or behind it (`infix_append_cons_iff`), and a text
that was folded to one line or escaped for a table holds no word that it
did not hold before (`infix_of_infix_cell`).
-/
import SchemaDocs.Proofs.Text.Lines
import SchemaDocs.Text.Line
import SchemaDocs.Text.Sorted

namespace SchemaDocs

-- ======================================================= text within text

/-- A text holds another, in one piece. -/
def Holds (text piece : String) : Prop := piece.toList <:+: text.toList

instance (text piece : String) : Decidable (Holds text piece) :=
  inferInstanceAs (Decidable (_ <:+: _))

/-- A text holds no less with something before it. -/
theorem Holds.append_left {text piece : String} (h : Holds text piece)
    (front : String) : Holds (front ++ text) piece := by
  unfold Holds
  rw [String.toList_append]
  exact List.infix_append_of_infix_right h

theorem Holds.append_right {text piece : String} (h : Holds text piece)
    (back : String) : Holds (text ++ back) piece := by
  unfold Holds
  rw [String.toList_append]
  exact List.infix_append_of_infix_left h

theorem Holds.refl (text : String) : Holds text text := List.infix_rfl

theorem holds_of_eq_append {text piece : String} (front back : String)
    (h : text = front ++ piece ++ back) : Holds text piece := by
  rw [h]
  exact ((Holds.refl piece).append_left front).append_right back

/-- What a piece holds the text holds. -/
theorem Holds.trans {text piece part : String} (h : Holds text piece)
    (hpart : Holds piece part) : Holds text part :=
  List.IsInfix.trans hpart h

/-- Pieces put together hold each of them. -/
theorem holds_join {pieces : List String} {piece : String}
    (h : piece ∈ pieces) : Holds (String.join pieces) piece := by
  unfold Holds
  rw [String.toList_join]
  exact List.infix_of_mem_flatten (List.mem_map_of_mem h)

/-- Sorted or not, joined pieces are all there. -/
theorem holds_join_sorted {pieces : List String} {piece : String}
    (h : piece ∈ pieces) :
    Holds (String.join (Text.sorted pieces)) piece :=
  holds_join ((Text.sorted_perm pieces).mem_iff.mpr h)

/-- So do pieces with a separator between them. -/
theorem holds_intercalate {pieces : List String} {piece : String}
    (h : piece ∈ pieces) (separator : String) :
    Holds (separator.intercalate pieces) piece := by
  unfold Holds
  rw [String.toList_intercalate]
  induction pieces with
  | nil => cases h
  | cons first rest ih =>
      cases rest with
      | nil =>
          rw [List.mem_singleton.mp h]
          exact ⟨[], [], by simp⟩
      | cons second rest =>
          rw [List.map_cons, List.map_cons, List.intercalate_cons_cons]
          rcases List.mem_cons.mp h with rfl | hrest
          · exact List.infix_append_of_infix_left List.infix_append_left
          · exact List.infix_append_of_infix_right (ih hrest)

/-- Pieces put together have no characters but their own and those of the
separator. -/
theorem not_mem_intercalate {c : Char} {separator : String}
    (hseparator : c ∉ separator.toList) {pieces : List String}
    (h : ∀ piece ∈ pieces, c ∉ piece.toList) :
    c ∉ (separator.intercalate pieces).toList := by
  rw [String.toList_intercalate]
  induction pieces with
  | nil => exact List.not_mem_nil
  | cons first rest ih =>
      have hfirst := h first List.mem_cons_self
      have hrest := ih fun piece hp => h piece (List.mem_cons_of_mem _ hp)
      cases rest with
      | nil => simpa using hfirst
      | cons second rest =>
          rw [List.map_cons, List.map_cons, List.intercalate_cons_cons,
            List.mem_append, List.mem_append, not_or, not_or]
          exact ⟨⟨hfirst, hseparator⟩, hrest⟩

namespace Text

variable {word a b cs ds : List Char} {c : Char}

-- ========================================================= across marks

/-- A word stands before a mark that it lacks or behind it. -/
theorem infix_append_cons_iff (hc : c ∉ word) :
    word <:+: a ++ c :: b ↔ word <:+: a ∨ word <:+: b := by
  constructor
  · intro h
    rcases List.infix_append_iff.mp h with ha | hb | ⟨start, rest, rfl, ha, hb⟩
    · exact .inl ha
    · rcases List.infix_cons_iff.mp hb with hstart | hb
      · cases word with
        | nil => exact .inl (List.nil_infix)
        | cons d word =>
            obtain rfl := (List.cons_prefix_cons.mp hstart).1
            exact absurd List.mem_cons_self hc
      · exact .inr hb
    · cases rest with
      | nil =>
          rw [List.append_nil]
          exact .inl ha.isInfix
      | cons d rest =>
          obtain rfl := (List.cons_prefix_cons.mp hb).1
          exact absurd (List.mem_append_right _ List.mem_cons_self) hc
  · rintro (ha | hb)
    · exact List.infix_append_of_infix_left ha
    · exact List.infix_append_of_infix_right (List.infix_cons hb)

/-- A word does not stand where there are not enough of its characters. -/
theorem not_infix_of_count_lt (h : cs.count c < word.count c) :
    ¬ word <:+: cs := fun hstands =>
  absurd (hstands.count_le c) (Nat.not_le.mpr h)

/-- A word without line feeds that stands in joined lines stands in one of
them. -/
theorem exists_holds_of_join {texts : List String} {piece : String}
    (hends : ∀ text ∈ texts, EndsLine text) (hfeed : '\n' ∉ piece.toList)
    (hne : piece.toList ≠ []) (h : Holds (String.join texts) piece) :
    ∃ text ∈ texts, Holds text piece := by
  induction texts with
  | nil => exact absurd (List.infix_nil.mp h) hne
  | cons text texts ih =>
      obtain ⟨front, hfront⟩ := (hends text List.mem_cons_self).exists_front
      have hjoined : piece.toList <:+: front
        ++ '\n' :: (String.join texts).toList := by
        unfold Holds at h
        rwa [String.join_cons, String.toList_append, hfront, List.append_assoc,
          List.singleton_append] at h
      rcases (infix_append_cons_iff hfeed).mp hjoined with hfirst | hrest
      · refine ⟨text, List.mem_cons_self, ?_⟩
        unfold Holds
        rw [hfront]
        exact List.infix_append_of_infix_left hfirst
      · obtain ⟨other, hother, hholds⟩ :=
          ih (fun other hother =>
            hends other (List.mem_cons_of_mem text hother)) hrest
        exact ⟨other, List.mem_cons_of_mem text hother, hholds⟩

-- ============================================================ rewriting

/-- The one text is written for the other: some of its characters, or
none, were replaced by a character that the word lacks, here and there. -/
inductive Rewritten (word : List Char) : List Char → List Char → Prop
  | nil : Rewritten word [] []
  | keep (c : Char) {cs ds : List Char} (h : Rewritten word cs ds) :
      Rewritten word (c :: cs) (c :: ds)
  | replace (old : List Char) {new : Char} (hnew : new ∉ word)
      {cs ds : List Char} (h : Rewritten word cs ds) :
      Rewritten word (old ++ cs) (new :: ds)

/-- What a rewritten text starts with, out of characters of the word, was
its start before. -/
theorem Rewritten.isPrefix (h : Rewritten word cs ds) {start : List Char}
    (hstart : start ⊆ word) (hbegins : start <+: ds) : start <+: cs := by
  induction h generalizing start with
  | nil => exact hbegins
  | keep c h ih =>
      cases start with
      | nil => exact List.nil_prefix
      | cons d start =>
          obtain ⟨rfl, hrest⟩ := List.cons_prefix_cons.mp hbegins
          exact List.cons_prefix_cons.mpr
            ⟨rfl, ih (List.subset_of_cons_subset hstart) hrest⟩
  | replace old hnew h ih =>
      cases start with
      | nil => exact List.nil_prefix
      | cons d start =>
          obtain ⟨rfl, -⟩ := List.cons_prefix_cons.mp hbegins
          exact absurd (hstart List.mem_cons_self) hnew

/-- A rewritten text holds the word only where the text did. -/
theorem Rewritten.isInfix (h : Rewritten word cs ds) (hstands : word <:+: ds) :
    word <:+: cs := by
  induction h with
  | nil => exact hstands
  | keep c h ih =>
      rcases List.infix_cons_iff.mp hstands with hstart | hrest
      · exact ((Rewritten.keep c h).isPrefix (List.Subset.refl _)
          hstart).isInfix
      · exact List.infix_cons (ih hrest)
  | replace old hnew h ih =>
      rcases List.infix_cons_iff.mp hstands with hstart | hrest
      · exact ((Rewritten.replace old hnew h).isPrefix (List.Subset.refl _)
          hstart).isInfix
      · exact List.infix_append_of_infix_right (ih hrest)

/-- A line break of two characters gives way to one blank. -/
theorem rewritten_foldPairs (hblank : ' ' ∉ word) (cs : List Char) :
    Rewritten word cs (foldPairs cs) := by
  fun_induction foldPairs cs with
  | case1 => exact .nil
  | case2 rest ih => exact .replace ['\r', '\n'] hblank ih
  | case3 c rest _ ih => exact .keep c ih

theorem rewritten_foldSingles (hblank : ' ' ∉ word) (cs : List Char) :
    Rewritten word cs (foldSingles cs) := by
  induction cs with
  | nil => exact .nil
  | cons c cs ih =>
      rw [foldSingles_cons]
      split
      · exact .replace [c] hblank ih
      · exact .keep c ih

/-- A pipe gets a backslash, and nothing else changes. -/
theorem rewritten_escapePipes (hslash : '\\' ∉ word) (cs : List Char) :
    Rewritten word cs (escapePipes cs) := by
  induction cs with
  | nil => exact .nil
  | cons c cs ih =>
      rw [escapePipes_cons]
      split
      · next hpipe =>
        rw [hpipe]
        exact .replace [] hslash (.keep '|' ih)
      · exact .keep c ih

/-- Folding lines brings no word about. -/
theorem infix_of_infix_singleLine (hblank : ' ' ∉ word) {text : String}
    (h : word <:+: (singleLine text).toList) : word <:+: text.toList := by
  rw [toList_singleLine] at h
  exact (rewritten_foldPairs hblank _).isInfix
    ((rewritten_foldSingles hblank _).isInfix h)

/-- Nor does putting a description into a cell. -/
theorem infix_of_infix_cell (hblank : ' ' ∉ word) (hslash : '\\' ∉ word)
    {description : Option String}
    (h : word <:+: (cell description).toList) :
    word <:+: (description.getD "").toList := by
  rw [toList_cell] at h
  exact infix_of_infix_singleLine hblank
    ((rewritten_escapePipes hslash _).isInfix h)

end Text

end SchemaDocs
