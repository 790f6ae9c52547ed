/-
Escaping leaves nothing to escape.

What is escaped for a path or for a user is written in characters that
stand there: those that stood before, percent signs, and hexadecimal
digits. So a text that is escaped again, as a text that is read again is,
stays the same (`escapeUnless_escapeUnless`).
-/
import SchemaDocs.Url.Percent

namespace SchemaDocs.Url

variable {stands : Char → Bool} {cs : List Char} {c : Char}

/-- The characters of escapes stand. -/
def KeepsEscapes (stands : Char → Bool) : Prop :=
  stands '%' = true ∧ ∀ d < 16, stands (Text.hexUpper d) = true

/-- Escapes stand in a path as they are. -/
theorem keepsEscapes_path : KeepsEscapes standsInPath := by
  unfold KeepsEscapes
  decide

/-- They stand in user information, too. -/
theorem keepsEscapes_user : KeepsEscapes standsInUser := by
  unfold KeepsEscapes
  decide

/-- A character of an escaped text stood there before and was allowed to,
or belongs to an escape. -/
theorem of_mem_escapeUnless (h : c ∈ escapeUnless stands cs) :
    (c ∈ cs ∧ stands c = true) ∨ c = '%' ∨ ∃ d < 16, c = Text.hexUpper d := by
  obtain ⟨d, hmem, hd⟩ := List.mem_flatMap.mp h
  split at hd
  · next hstands =>
      obtain rfl := List.mem_singleton.mp hd
      exact .inl ⟨hmem, hstands⟩
  · obtain ⟨byte, -, hbyte⟩ := List.mem_flatMap.mp hd
    have hlt : byte.toNat < 256 := byte.toNat_lt
    simp only [escapeByte, List.mem_cons, List.not_mem_nil, or_false] at hbyte
    rcases hbyte with hpercent | hhigh | hlow
    · exact .inr (.inl hpercent)
    · exact .inr (.inr ⟨_, by omega, hhigh⟩)
    · exact .inr (.inr ⟨_, by omega, hlow⟩)

/-- An escaped text holds only what may stand. -/
theorem stands_of_mem_escapeUnless (hkeeps : KeepsEscapes stands)
    (h : c ∈ escapeUnless stands cs) : stands c = true := by
  rcases of_mem_escapeUnless h with ⟨-, hstands⟩ | rfl | ⟨d, hd, rfl⟩
  · exact hstands
  · exact hkeeps.1
  · exact hkeeps.2 d hd

theorem escapeUnless_of_stands (h : ∀ c ∈ cs, stands c = true) :
    escapeUnless stands cs = cs := by
  induction cs with
  | nil => rfl
  | cons c cs ih =>
      have hrest := ih fun d hd => h d (List.mem_cons_of_mem _ hd)
      unfold escapeUnless at hrest ⊢
      rw [List.flatMap_cons, if_pos (h c List.mem_cons_self), hrest]
      rfl

/-- An escaped text stands as it is. -/
theorem escapeUnless_escapeUnless (hkeeps : KeepsEscapes stands)
    (cs : List Char) :
    escapeUnless stands (escapeUnless stands cs) = escapeUnless stands cs :=
  escapeUnless_of_stands fun _ hc => stands_of_mem_escapeUnless hkeeps hc

theorem escapeUnless_eq_nil : escapeUnless stands cs = [] ↔ cs = [] := by
  cases cs with
  | nil => exact ⟨fun _ => rfl, fun _ => rfl⟩
  | cons c cs =>
      have hne : ∀ c, (String.utf8EncodeChar c).flatMap escapeByte ≠ [] := by
        intro c hnil
        have hsize := String.length_utf8EncodeChar c
        have hpos := c.utf8Size_pos
        cases hbytes : String.utf8EncodeChar c with
        | nil =>
            rw [hbytes, List.length_nil] at hsize
            omega
        | cons byte bytes =>
            rw [hbytes] at hnil
            cases hnil
      refine ⟨fun h => ?_, fun h => nomatch h⟩
      unfold escapeUnless at h
      rw [List.flatMap_cons, List.append_eq_nil_iff] at h
      have hfirst := h.1
      split at hfirst
      · cases hfirst
      · exact absurd hfirst (hne c)

end SchemaDocs.Url
