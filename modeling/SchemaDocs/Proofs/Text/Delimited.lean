/-
Telling pieces of a text apart.

A text is put together from pieces with fixed words between them. Where a
piece cannot hold some character of the word behind it, the word shows
where the piece ends: two texts that agree as a whole agree piece by
piece (`eq_of_append_stop`). This is stated with arbitrary text behind
the word, so that pieces can be told one after the other from the front
of a text on. A run of pieces is told apart once each piece is that has
text behind it (`map_eq_of_flatMap_eq`).
-/

namespace SchemaDocs.Text

-- ======================================================== single pieces

/-- A piece ends before the first place of a character that it cannot
hold. -/
private theorem eq_of_append_cons {c : Char} {a b r s : List Char}
    (ha : c ∉ a) (hb : c ∉ b) (h : a ++ c :: r = b ++ c :: s) :
    a = b := by
  rcases List.append_eq_append_iff.mp h with ⟨m, hm, hr⟩ | ⟨m, hm, hs⟩
  · cases m with
    | nil => rw [hm, List.append_nil]
    | cons d m =>
        injection hr with hd
        exact absurd (by rw [hm, hd]; simp) hb
  · cases m with
    | nil => rw [hm, List.append_nil]
    | cons d m =>
        injection hs with hd
        exact absurd (by rw [hm, hd]; simp) ha

/-- A piece ends where its stop word stands: the word holds a character
that neither piece has. -/
theorem eq_of_append_stop {c : Char} {stop a b r s : List Char}
    (hc : c ∈ stop) (ha : c ∉ a) (hb : c ∉ b)
    (h : a ++ (stop ++ r) = b ++ (stop ++ s)) : a = b ∧ r = s := by
  obtain ⟨before, after, hstop, hbefore⟩ := List.eq_append_cons_of_mem hc
  have hab : a = b := by
    rw [hstop, List.append_assoc, List.append_assoc, ← List.append_assoc,
      ← List.append_assoc b] at h
    exact List.append_cancel_right
      (eq_of_append_cons (by simp [ha, hbefore]) (by simp [hb, hbefore]) h)
  subst hab
  exact ⟨rfl, List.append_cancel_left (List.append_cancel_left h)⟩

-- ======================================================= runs of pieces

variable {α β : Type} {P : α → Prop} {write : α → List Char} {key : α → β}

/-- Two runs of pieces with the same text hold the same pieces, if a
piece with text behind it tells its key and where it ends, and no piece
is empty. -/
theorem map_eq_of_flatMap_eq
    (tells : ∀ {a b r s}, P a → P b → write a ++ r = write b ++ s →
      key a = key b ∧ r = s)
    (nonempty : ∀ a, write a ≠ [])
    {as bs : List α} (has : ∀ a ∈ as, P a) (hbs : ∀ b ∈ bs, P b)
    (h : as.flatMap write = bs.flatMap write) :
    as.map key = bs.map key := by
  induction as generalizing bs with
  | nil =>
      cases bs with
      | nil => rfl
      | cons b bs =>
          rw [List.flatMap_nil, List.flatMap_cons] at h
          exact absurd (List.append_eq_nil_iff.mp h.symm).1 (nonempty b)
  | cons a as ih =>
      cases bs with
      | nil =>
          rw [List.flatMap_nil, List.flatMap_cons] at h
          exact absurd (List.append_eq_nil_iff.mp h).1 (nonempty a)
      | cons b bs =>
          rw [List.flatMap_cons, List.flatMap_cons] at h
          obtain ⟨hkey, hrest⟩ := tells (has a (by simp)) (hbs b (by simp)) h
          rw [List.map_cons, List.map_cons, hkey,
            ih (fun x hx => has x (List.mem_cons_of_mem _ hx))
              (fun x hx => hbs x (List.mem_cons_of_mem _ hx)) hrest]

end SchemaDocs.Text
