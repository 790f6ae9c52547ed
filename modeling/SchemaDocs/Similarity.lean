/-
Similar names.

A misspelt name is answered with the name most like it. Likeness is the
measure of Jaro and Winkler: the share of characters that two texts have
in common at nearly the same place, less half of those that are out of
order, with a bonus for a common start. Case does not count.
-/
import SchemaDocs.Schema.Basic
import SchemaDocs.Unicode.Lower

namespace SchemaDocs.Similarity

-- ============================================================ matching

/-- Marks the first free character equal to `c` whose place is from `low`
up to but not including `high`; `place` is that of the first character. -/
def claim (c : Char) (low high place : Nat) :
    List (Char × Bool) → Option (List (Char × Bool))
  | [] => none
  | (d, taken) :: rest =>
      if place < high then
        if low ≤ place && d = c && !taken then some ((d, true) :: rest)
        else (claim c low high (place + 1) rest).map ((d, taken) :: ·)
      else none

/-- The characters of a text that find an equal character of the other
within `range` places, and the other text with these marked. -/
def claimAll (range place : Nat) : List Char → List (Char × Bool) →
    List Char × List (Char × Bool)
  | [], other => ([], other)
  | c :: rest, other =>
      match claim c (place - range) (place + range + 1) 0 other with
      | some marked =>
          let (found, last) := claimAll range (place + 1) rest marked
          (c :: found, last)
      | none => claimAll range (place + 1) rest other

/-- The characters that two texts have in common, in the order of the one
and in the order of the other. -/
def common (a b : List Char) : List Char × List Char :=
  let (found, marked) :=
    claimAll (max a.length b.length / 2 - 1) 0 a (b.map fun c => (c, false))
  (found, (marked.filter Prod.snd).map Prod.fst)

-- ============================================================ scores

/-- The share of characters in common, out of order ones counting less. -/
def jaro (a b : List Char) : Float :=
  if a.isEmpty && b.isEmpty then 1
  else
    let (inA, inB) := common a b
    let found := inA.length
    if found = 0 then 0
    else
      let crossed := ((inA.zip inB).countP fun (c, d) => c ≠ d) / 2
      (found.toFloat / a.length.toFloat + found.toFloat / b.length.toFloat
        + (found - crossed).toFloat / found.toFloat) / 3

/-- The length of the common start of two texts. -/
def commonStart : List Char → List Char → Nat
  | c :: a, d :: b => if c = d then commonStart a b + 1 else 0
  | _, _ => 0

/-- How like two texts are, from none at 0 to full at 1. Texts that are
alike to begin with gain by a common start of up to four characters. -/
def score (a b : String) : Float :=
  let base := jaro a.toList b.toList
  if 0.7 < base then
    base + 0.1 * (min 4 (commonStart a.toList b.toList)).toFloat * (1 - base)
  else base

-- ============================================================ the closest

/-- The last of the items whose score no other item's score exceeds. -/
def lastBest {α β : Type} [LE β] [DecidableLE β] (score : α → β)
    (items : List α) :
    Option α :=
  items.foldl
    (fun best item =>
      match best with
      | some other => if score other ≤ score item then some item else best
      | none => some item)
    none

/-- Where each step keeps what is there or takes the item at hand, what
is left in the end was there at the start or is one of the items. -/
theorem eq_or_mem_of_foldl {α : Type} {choose : Option α → α → Option α}
    (hchoose : ∀ best item,
      choose best item = best ∨ choose best item = some item)
    {items : List α} {start : Option α} {found : α}
    (h : items.foldl choose start = some found) :
    start = some found ∨ found ∈ items := by
  induction items generalizing start with
  | nil => exact .inl h
  | cons item items ih =>
      rcases ih h with hstart | hmem
      · rcases hchoose start item with hkept | htaken
        · exact .inl (hkept ▸ hstart)
        · rw [htaken] at hstart
          rw [Option.some.inj hstart]
          exact .inr List.mem_cons_self
      · exact .inr (List.mem_cons_of_mem item hmem)

/-- The best of some items is one of them. -/
theorem mem_of_lastBest {α β : Type} [LE β] [DecidableLE β] {score : α → β}
    {items : List α}
    {best : α} (h : lastBest score items = some best) : best ∈ items := by
  refine (eq_or_mem_of_foldl (fun best item => ?_) h).resolve_left nofun
  cases best with
  | none => exact .inr rfl
  | some other =>
      by_cases hbetter : score other ≤ score item
      · exact .inr (if_pos hbetter)
      · exact .inl (if_neg hbetter)

/-- The name most like the wanted one, of the names that do not belong to
introspection and score at least `threshold`. Of equal ones the last. -/
def closestBy {β : Type} [LE β] [DecidableLE β] (score : String → String → β)
    (threshold : β)
    (wanted : String) (types : List TypeDef) : Option String :=
  let likeness (name : String) :=
    score (Unicode.lower wanted) (Unicode.lower name)
  let names := (types.filter fun type => !type.isReserved).map TypeDef.name
  lastBest likeness (names.filter fun name => threshold ≤ likeness name)

/-- It is the name of a type that does not belong to introspection. -/
theorem exists_of_closestBy {β : Type} [LE β] [DecidableLE β]
    {score : String → String → β}
    {threshold : β} {wanted found : String} {types : List TypeDef}
    (h : closestBy score threshold wanted types = some found) :
    ∃ type ∈ types, type.isReserved = false ∧ type.name = found := by
  have hmem := (List.mem_filter.mp (mem_of_lastBest h)).1
  obtain ⟨type, htype, hname⟩ := List.mem_map.mp hmem
  obtain ⟨hmem, hreserved⟩ := List.mem_filter.mp htype
  exact ⟨type, hmem, by simpa using hreserved, hname⟩

/-- The name to suggest for one that no type has. -/
def closest (wanted : String) (types : List TypeDef) : Option String :=
  closestBy score 0.8 wanted types

end SchemaDocs.Similarity
