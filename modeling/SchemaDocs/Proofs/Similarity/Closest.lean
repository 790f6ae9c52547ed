/-
The closest name.

A name that no type has is answered with the closest one that a type
has, and this file says which one that is. Of the types that do not
belong to introspection it is the last of those whose names are most like
the wanted one, if their likeness reaches the threshold; and if it does
not, no name is suggested (`closestBy_is_last_best`). So a name that is
wanted in the wrong case is answered with a name that differs from it in
case only, as long as a text is more like itself than like any other.

The scores may be anything that is totally ordered.

# How the proof goes

The list is searched from the front with the best name so far at hand. A
name that is added at the end of a list either takes its place or leaves
it (`isLastBest_concat`), and that is what the search does with it
(`lastBest_concat`); so the name at hand is the last of the best at every
step (`lastBest_eq_some_iff`). The names that do not count are left out
beforehand, which moves no other name (`isLastBest_filter`).
-/
import Mathlib.Data.List.Induction
import Mathlib.Algebra.Order.Ring.Rat
import Mathlib.Tactic.NormNum
import SchemaDocs.Proofs.Unicode.Tables
import SchemaDocs.Similarity

namespace SchemaDocs.Similarity

section LastBest

variable {α β γ : Type} [LinearOrder β] {score : α → β} {items : List α}
  {item best : α}

-- ================================================================ steps

/-- The item is the last of the best: none before it scores more, and all
behind it score less. -/
def IsLastBest (score : α → β) (items : List α) (best : α) : Prop :=
  ∃ before after, items = before ++ best :: after
    ∧ (∀ other ∈ before, score other ≤ score best)
    ∧ ∀ other ∈ after, score other < score best

/-- No item scores higher than the best. -/
theorem IsLastBest.score_le (h : IsLastBest score items best)
    (hitem : item ∈ items) : score item ≤ score best := by
  obtain ⟨before, after, rfl, hbefore, hafter⟩ := h
  rcases List.mem_append.mp hitem with hmem | hmem
  · exact hbefore item hmem
  · rcases List.mem_cons.mp hmem with rfl | hmem
    · exact le_refl _
    · exact le_of_lt (hafter item hmem)

/-- One more item is the last of the best, or it leaves the one that was. -/
theorem isLastBest_concat :
    IsLastBest score (items ++ [item]) best
      ↔ (best = item ∧ ∀ other ∈ items, score other ≤ score item)
        ∨ (IsLastBest score items best ∧ score item < score best) := by
  constructor
  · rintro ⟨before, after, hsplit, hbefore, hafter⟩
    rcases List.eq_nil_or_concat after with rfl | ⟨rest, last, rfl⟩
    · obtain ⟨rfl, hlast⟩ := List.append_inj' hsplit rfl
      obtain rfl : item = best := List.head_eq_of_cons_eq hlast
      exact .inl ⟨rfl, hbefore⟩
    · rw [List.concat_eq_append, ← List.cons_append, ← List.append_assoc]
        at hsplit
      obtain ⟨rfl, hlast⟩ := List.append_inj' hsplit rfl
      obtain rfl : item = last := List.head_eq_of_cons_eq hlast
      rw [List.concat_eq_append, List.forall_mem_append] at hafter
      exact .inr ⟨⟨before, rest, rfl, hbefore, hafter.1⟩,
        hafter.2 item List.mem_cons_self⟩
  · rintro (⟨rfl, hall⟩ | ⟨⟨before, after, rfl, hbefore, hafter⟩, hlt⟩)
    · exact ⟨items, [], rfl, hall, List.forall_mem_nil _⟩
    · refine ⟨before, after ++ [item], by simp, hbefore, ?_⟩
      rw [List.forall_mem_append]
      exact ⟨hafter, List.forall_mem_singleton.mpr hlt⟩

/-- What the search makes of one more item. -/
theorem lastBest_concat :
    lastBest score (items ++ [item])
      = match lastBest score items with
        | some other =>
            if score other ≤ score item then some item else some other
        | none => some item := by
  unfold lastBest
  rw [List.foldl_append, List.foldl_cons, List.foldl_nil]
  cases items.foldl _ none <;> rfl

-- ================================================================= runs

/-- Only an empty list has no best item. -/
theorem lastBest_eq_none_iff : lastBest score items = none ↔ items = [] := by
  induction items using List.reverseRecOn with
  | nil => exact iff_of_true rfl rfl
  | append_singleton items item ih =>
      refine iff_of_false ?_ (List.concat_ne_nil item items)
      rw [lastBest_concat]
      cases lastBest score items with
      | none => exact Option.some_ne_none item
      | some other =>
          show (if score other ≤ score item then some item else some other)
            ≠ none
          split
          · exact Option.some_ne_none item
          · exact Option.some_ne_none other

/-- The search finds the last of the best. -/
theorem lastBest_eq_some_iff :
    lastBest score items = some best ↔ IsLastBest score items best := by
  induction items using List.reverseRecOn generalizing best with
  | nil =>
      refine iff_of_false nofun ?_
      rintro ⟨before, after, hsplit, -⟩
      exact absurd hsplit.symm (List.append_ne_nil_of_right_ne_nil _ nofun)
  | append_singleton items item ih =>
      rw [lastBest_concat, isLastBest_concat]
      cases hfound : lastBest score items with
      | none =>
          obtain rfl := lastBest_eq_none_iff.mp hfound
          have hnone : ¬ IsLastBest score [] best := by
            rw [← ih]
            nofun
          simp [hnone, eq_comm]
      | some other =>
          have hother : IsLastBest score items other := ih.mp hfound
          have hunique : IsLastBest score items best ↔ best = other := by
            rw [← ih, hfound, Option.some.injEq, eq_comm]
          rw [hunique]
          show (if score other ≤ score item then some item else some other)
              = some best ↔ _
          by_cases hbetter : score other ≤ score item
          · rw [if_pos hbetter]
            constructor
            · intro h
              obtain rfl := Option.some.inj h
              exact .inl ⟨rfl, fun one hone =>
                le_trans (hother.score_le hone) hbetter⟩
            · rintro (⟨rfl, -⟩ | ⟨rfl, hlt⟩)
              · rfl
              · exact absurd hbetter (not_le.mpr hlt)
          · rw [if_neg hbetter]
            constructor
            · intro h
              obtain rfl := Option.some.inj h
              exact .inr ⟨rfl, not_le.mp hbetter⟩
            · rintro (⟨rfl, hall⟩ | ⟨rfl, -⟩)
              · exact absurd (hall other (mem_of_lastBest hfound)) hbetter
              · rfl

-- ============================================================ selections

/-- What is searched by a name of the items is searched as the items are. -/
theorem lastBest_map (key : γ → α) (sources : List γ) :
    lastBest score (sources.map key)
      = (lastBest (score ∘ key) sources).map key := by
  induction sources using List.reverseRecOn with
  | nil => rfl
  | append_singleton sources source ih =>
      rw [List.map_append, List.map_singleton, lastBest_concat, ih,
        lastBest_concat]
      cases lastBest (score ∘ key) sources with
      | none => rfl
      | some other =>
          show (if score (key other) ≤ score (key source) then _ else _)
            = Option.map key
              (if score (key other) ≤ score (key source) then _ else _)
          split <;> rfl

/-- The last of the best of those that count stands in the whole list as
it does among them. -/
theorem isLastBest_filter {counts : α → Bool} :
    IsLastBest score (items.filter counts) best
      ↔ counts best = true
        ∧ ∃ before after, items = before ++ best :: after
          ∧ (∀ other ∈ before, counts other = true → score other ≤ score best)
          ∧ ∀ other ∈ after,
              counts other = true → score other < score best := by
  constructor
  · rintro ⟨before, after, hsplit, hbefore, hafter⟩
    obtain ⟨front, back, rfl, rfl, hback⟩ :=
      List.filter_eq_append_iff.mp hsplit
    obtain ⟨skipped, rest, rfl, hskipped, hbest, rfl⟩ :=
      List.filter_eq_cons_iff.mp hback
    refine ⟨hbest, front ++ skipped, rest, by simp, ?_, ?_⟩
    · intro other hother hcounts
      rcases List.mem_append.mp hother with hmem | hmem
      · exact hbefore other (List.mem_filter.mpr ⟨hmem, hcounts⟩)
      · exact absurd hcounts (hskipped other hmem)
    · intro other hother hcounts
      exact hafter other (List.mem_filter.mpr ⟨hother, hcounts⟩)
  · rintro ⟨hbest, before, after, rfl, hbefore, hafter⟩
    refine ⟨before.filter counts, after.filter counts, ?_, ?_, ?_⟩
    · rw [List.filter_append, List.filter_cons_of_pos hbest]
    · intro other hother
      obtain ⟨hmem, hcounts⟩ := List.mem_filter.mp hother
      exact hbefore other hmem hcounts
    · intro other hother
      obtain ⟨hmem, hcounts⟩ := List.mem_filter.mp hother
      exact hafter other hmem hcounts

end LastBest

-- ============================================================== closest

section Closest

variable {β : Type} [LinearOrder β] {score : String → String → β}
  {threshold : β} {wanted found : String} {types : List TypeDef}
  {type best : TypeDef}

/-- How like the name of a type is to the wanted one. Case does not count. -/
def likeness (score : String → String → β) (wanted : String)
    (type : TypeDef) : β :=
  score (Unicode.lower wanted) (Unicode.lower type.name)

/-- The type does not belong to introspection, its likeness reaches the
threshold, and of all that do not belong to introspection it is the last
of those that are most like the wanted name. -/
structure IsClosest (score : String → String → β) (threshold : β)
    (wanted : String) (types : List TypeDef) (best : TypeDef) : Prop where
  plain : best.isReserved = false
  reaches : threshold ≤ likeness score wanted best
  placed : ∃ before after, types = before ++ best :: after
    ∧ (∀ type ∈ before, type.isReserved = false →
        likeness score wanted type ≤ likeness score wanted best)
    ∧ ∀ type ∈ after, type.isReserved = false →
        likeness score wanted type < likeness score wanted best

/-- Whether a type counts: it does not belong to introspection, and its
likeness reaches the threshold. -/
def counts (score : String → String → β) (threshold : β) (wanted : String)
    (type : TypeDef) : Bool :=
  !type.isReserved && decide (threshold ≤ likeness score wanted type)

theorem counts_iff :
    counts score threshold wanted type = true
      ↔ type.isReserved = false
        ∧ threshold ≤ likeness score wanted type := by
  simp [counts]

/-- The names that count are those of the types that count. -/
theorem closestBy_eq :
    closestBy score threshold wanted types
      = (lastBest (likeness score wanted)
          (types.filter (counts score threshold wanted))).map
            TypeDef.name := by
  unfold closestBy
  dsimp only
  rw [List.filter_map, lastBest_map, List.filter_filter]
  congr 2
  refine List.filter_congr fun type _ => ?_
  exact Bool.and_comm _ _

/-- No name is suggested if none is like enough to the wanted one. -/
theorem closestBy_eq_none_iff :
    closestBy score threshold wanted types = none
      ↔ ¬ ∃ type ∈ types, type.isReserved = false
          ∧ threshold ≤ likeness score wanted type := by
  rw [closestBy_eq, Option.map_eq_none_iff, lastBest_eq_none_iff,
    List.filter_eq_nil_iff]
  simp only [counts_iff, not_exists, not_and]

/-- Types that do not reach the threshold are no match for one that does,
so it makes no difference that they are left out. -/
theorem isLastBest_filter_counts :
    IsLastBest (likeness score wanted)
        (types.filter (counts score threshold wanted)) best
      ↔ IsClosest score threshold wanted types best := by
  rw [isLastBest_filter, counts_iff]
  constructor
  · rintro ⟨⟨hplain, hreaches⟩, before, after, hsplit, hbefore, hafter⟩
    refine ⟨hplain, hreaches, before, after, hsplit, ?_, ?_⟩
    · intro type htype hplain
      rcases le_or_gt threshold (likeness score wanted type) with hle | hlt
      · exact hbefore type htype (counts_iff.mpr ⟨hplain, hle⟩)
      · exact le_trans (le_of_lt hlt) hreaches
    · intro type htype hplain
      rcases le_or_gt threshold (likeness score wanted type) with hle | hlt
      · exact hafter type htype (counts_iff.mpr ⟨hplain, hle⟩)
      · exact lt_of_lt_of_le hlt hreaches
  · rintro ⟨hplain, hreaches, before, after, hsplit, hbefore, hafter⟩
    refine ⟨⟨hplain, hreaches⟩, before, after, hsplit, ?_, ?_⟩
    · intro type htype hcounts
      exact hbefore type htype (counts_iff.mp hcounts).1
    · intro type htype hcounts
      exact hafter type htype (counts_iff.mp hcounts).1

/-- The name that is found is that of the closest type. -/
theorem closestBy_eq_some_iff :
    closestBy score threshold wanted types = some found
      ↔ ∃ best, IsClosest score threshold wanted types best
          ∧ best.name = found := by
  rw [closestBy_eq, Option.map_eq_some_iff]
  simp only [lastBest_eq_some_iff, isLastBest_filter_counts]

/-- No type that does not belong to introspection is more like the name. -/
theorem IsClosest.likeness_le (h : IsClosest score threshold wanted types best)
    (htype : type ∈ types) (hplain : type.isReserved = false) :
    likeness score wanted type ≤ likeness score wanted best := by
  have hlast : IsLastBest (likeness score wanted)
      (types.filter fun type => !type.isReserved) best :=
    isLastBest_filter.mpr ⟨by simp [h.plain], by simpa using h.placed⟩
  exact hlast.score_le (List.mem_filter.mpr ⟨htype, by simp [hplain]⟩)

end Closest

/-- The suggested name is the last of the best. No name is suggested if no
type of those that do not belong to introspection is like enough to the
wanted name; otherwise the name of the last of the types that are most
like it. Where a text is more like itself than like any other, a name that
differs from the wanted one in case only is answered with such a name. -/
theorem closestBy_is_last_best {β : Type} [LinearOrder β]
    (score : String → String → β) (threshold : β) (wanted : String)
    (types : List TypeDef) :
    (closestBy score threshold wanted types = none
        ↔ ¬ ∃ type ∈ types, type.isReserved = false
            ∧ threshold ≤ likeness score wanted type)
    ∧ (∀ found, closestBy score threshold wanted types = some found
        ↔ ∃ best, IsClosest score threshold wanted types best
            ∧ best.name = found)
    ∧ ∀ full, threshold ≤ full → (∀ text, score text text = full) →
        (∀ text other, text ≠ other → score text other < full) →
        (∃ type ∈ types, type.isReserved = false
          ∧ Unicode.lower type.name = Unicode.lower wanted) →
        ∃ found, closestBy score threshold wanted types = some found
          ∧ Unicode.lower found = Unicode.lower wanted := by
  refine ⟨closestBy_eq_none_iff, fun found => closestBy_eq_some_iff, ?_⟩
  rintro full hthreshold hsame hother ⟨type, htype, hplain, hlower⟩
  have hfull : likeness score wanted type = full := by
    unfold likeness
    rw [hlower, hsame]
  cases hclosest : closestBy score threshold wanted types with
  | none =>
      refine absurd ⟨type, htype, hplain,
        ?_⟩ (closestBy_eq_none_iff.mp hclosest)
      rw [hfull]
      exact hthreshold
  | some found =>
      obtain ⟨best, hbest, rfl⟩ := closestBy_eq_some_iff.mp hclosest
      refine ⟨best.name, rfl, ?_⟩
      by_contra hne
      have hless : likeness score wanted best < full :=
        hother _ _ (Ne.symm hne)
      have hmost : full ≤ likeness score wanted best :=
        hfull ▸ hbest.likeness_le htype hplain
      exact absurd hless (not_lt.mpr hmost)

/-- Users, one of them misspelt and one of introspection, and a post. -/
def users : List TypeDef :=
  [⟨"User", none, .scalar⟩, ⟨"Usr", none, .scalar⟩, ⟨"uSER", none, .scalar⟩,
    ⟨"__User", none, .scalar⟩, ⟨"Post", none, .scalar⟩]

/-- How like their names are to `user`, measured exactly. -/
def measured (text other : String) : ℚ :=
  if text = other then 1
  else if other = "usr" then 14 / 15
  else if other = "__user" then 8 / 9
  else 1 / 2

/-- Two users are as like the wanted one as can be. The later of them is
suggested, whose case is also another. -/
theorem closestBy_is_last_best_users :
    closestBy measured (4 / 5) "USER" users = some "uSER"
      ∧ (∀ text, measured text text = 1)
      ∧ (∀ text other, text ≠ other → measured text other < 1)
      ∧ ∃ found, closestBy measured (4 / 5) "USER" users = some found
        ∧ Unicode.lower found = Unicode.lower "USER" := by
  have hsame : ∀ text, measured text text = 1 := fun text => if_pos rfl
  have hother : ∀ text other, text ≠ other → measured text other < 1 := by
    intro text other hne
    unfold measured
    rw [if_neg hne]
    split
    · norm_num
    · split <;> norm_num
  obtain ⟨-, hsome, hcase⟩ :=
    closestBy_is_last_best measured (4 / 5) "USER" users
  have hwanted : Unicode.lower "USER" = "user" :=
    (Unicode.lower_of_ascii (by decide)).trans (by decide)
  have hlater : Unicode.lower "uSER" = "user" :=
    (Unicode.lower_of_ascii (by decide)).trans (by decide)
  have hpost : Unicode.lower "Post" = "post" :=
    (Unicode.lower_of_ascii (by decide)).trans (by decide)
  have hmost : likeness measured "USER" ⟨"uSER", none, .scalar⟩ = 1 := by
    rw [likeness, hwanted, hlater, hsame]
  have hless : likeness measured "USER" ⟨"Post", none, .scalar⟩ < 1 := by
    rw [likeness, hwanted, hpost]
    exact hother "user" "post" (by decide)
  have hbest : IsClosest measured (4 / 5) "USER" users
      ⟨"uSER", none, .scalar⟩ := by
    refine ⟨by decide, by rw [hmost]; norm_num, [_, _], [_, _], rfl, ?_, ?_⟩
    · intro type _ _
      rw [hmost]
      rcases eq_or_ne (Unicode.lower "USER") (Unicode.lower type.name) with
        heq | hne
      · rw [likeness, heq, hsame]
      · exact le_of_lt (hother _ _ hne)
    · rw [hmost]
      intro type htype hplain
      rcases List.mem_cons.mp htype with rfl | hpost
      · exact absurd hplain (by decide)
      · rwa [List.mem_singleton.mp hpost]
  refine ⟨(hsome "uSER").mpr ⟨_, hbest, rfl⟩, hsame, hother, ?_⟩
  exact hcase 1 (by norm_num) hsame hother
    ⟨⟨"uSER", none, .scalar⟩, by decide, by decide, hlater.trans hwanted.symm⟩

end SchemaDocs.Similarity
