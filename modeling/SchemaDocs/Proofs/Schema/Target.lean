/-
What a reference refers to.

A reference is searched from the outside. A turn of the search looks at
one layer: if that layer exposes a name, the name is the answer, and else
the search goes on with what is inside, until nothing is left (`Search`).
The target of a reference is the name of the outermost layer that has one
(`target_is_outermost_name`). The layers around that one do not matter,
nor do those inside it, and kinds do not matter anywhere.

# How the proof goes

Two things are known of a turn: it leaves the answer as it is
(`answer_step`), and fewer layers are left to look at (`left_step`). So
the search is over after as many turns as there are layers, and its answer
is the target (`step_iterate`). The rest is about the target alone, which
is a function of the names (`target_eq_names`).
-/
import Mathlib.Logic.Function.Iterate
import SchemaDocs.Schema.Reference

namespace SchemaDocs.Reference

-- ============================================================ the search

/-- A search for the name that a reference exposes: it looks at a layer,
or it is over. -/
inductive Search
  | looking (layer : Layer) (inside : Reference)
  | ended (answer : Option String)
  deriving DecidableEq, Repr

namespace Search

/-- A search starts at the outermost layer. Where there is none, nothing
is found. -/
def start : Reference → Search
  | [] => ended none
  | layer :: inside => looking layer inside

/-- One turn. A name that is exposed is the answer; from any other layer
the search goes on inside. -/
def step : Search → Search
  | looking layer inside =>
      match layer.exposed with
      | some name => ended (some name)
      | none => start inside
  | ended answer => ended answer

/-- What the search is going to answer. -/
def answer : Search → Option String
  | looking layer inside => Reference.target (layer :: inside)
  | ended answer => answer

/-- The number of layers that may still be looked at. -/
def left : Search → Nat
  | looking _ inside => inside.length + 1
  | ended _ => 0

/-- Before the first turn the answer is the target that is looked for. -/
theorem answer_start (reference : Reference) :
    (start reference).answer = reference.target := by
  cases reference with
  | nil => rfl
  | cons layer inside => rfl

theorem left_start (reference : Reference) :
    (start reference).left = reference.length := by
  cases reference with
  | nil => rfl
  | cons layer inside => rfl

/-- A turn does not change what the answer is going to be. -/
theorem answer_step (search : Search) :
    search.step.answer = search.answer := by
  cases search with
  | ended answer => rfl
  | looking layer inside =>
      show _ = List.findSome? Layer.exposed (layer :: inside)
      rw [step, List.findSome?_cons]
      cases layer.exposed with
      | some name => rfl
      | none => exact answer_start inside

/-- And it leaves a layer behind. -/
theorem left_step (search : Search) : search.step.left ≤ search.left - 1 := by
  cases search with
  | ended answer => exact Nat.zero_le _
  | looking layer inside =>
      rw [step]
      cases layer.exposed with
      | some name => exact Nat.zero_le _
      | none => exact Nat.le_of_eq (left_start inside)

/-- A search with no layer left is over. -/
theorem eq_ended_of_left {search : Search} (h : search.left = 0) :
    search = ended search.answer := by
  cases search with
  | looking layer inside => cases h
  | ended answer => rfl

/-- After as many turns as layers were left the search is over. -/
theorem step_iterate {turns : Nat} {search : Search}
    (h : search.left ≤ turns) : step^[turns] search = ended search.answer := by
  induction turns generalizing search with
  | zero => exact eq_ended_of_left (Nat.le_zero.mp h)
  | succ turns ih =>
      have hleft := left_step search
      rw [Function.iterate_succ_apply, ih (by omega), answer_step]

end Search

-- ============================================================= the names

/-- The names on the layers. -/
def names (reference : Reference) : List (Option String) :=
  reference.map Layer.name

/-- The name is the first on the layers, from the outside, that is not
missing and not empty. -/
def IsOutermostName (reference : Reference) (name : String) : Prop :=
  ∃ (outer : Reference) (layer : Layer) (inside : Reference),
    reference = outer ++ layer :: inside
      ∧ outer.Nameless ∧ layer.name = some name ∧ name ≠ ""

variable {reference other front : Reference} {name : String}

/-- The target is the outermost name that is not empty. -/
theorem target_eq_some_iff :
    reference.target = some name ↔ reference.IsOutermostName name := by
  unfold target
  rw [List.findSome?_eq_some_iff]
  constructor
  · rintro ⟨outer, layer, inside, hchain, hlayer, houter⟩
    exact ⟨outer, layer, inside, hchain,
      fun other hother => Layer.exposed_eq_none_iff.mp (houter other hother),
      Layer.exposed_eq_some_iff.mp hlayer⟩
  · rintro ⟨outer, layer, inside, hchain, houter, hlayer⟩
    exact ⟨outer, layer, inside, hchain, Layer.exposed_eq_some_iff.mpr hlayer,
      fun other hother => Layer.exposed_eq_none_iff.mpr (houter other hother)⟩

/-- The target depends on the names alone. -/
theorem target_eq_names (reference : Reference) :
    reference.target = reference.names.findSome? (Option.filter (· ≠ "")) := by
  unfold names
  rw [List.findSome?_map]
  rfl

/-- Only the names of the layers matter to the target. -/
theorem target_congr (h : other.names = reference.names) :
    other.target = reference.target := by
  rw [target_eq_names, target_eq_names, h]

/-- Layers without a name may stand around a reference. -/
theorem target_nameless_append (h : front.Nameless) (reference : Reference) :
    Reference.target (front ++ reference) = reference.target := by
  rw [target_append, target_eq_none_iff.mpr h, Option.none_or]

/-- A reference with the names of `front` on its outer layers, one of which
is a name, has its target from them. -/
theorem target_eq_of_outer_names (hnamed : ¬ front.Nameless)
    (h : front.names <+: other.names) : other.target = front.target := by
  obtain ⟨inner, hnames⟩ := h
  have hlength : front.names.length = front.length := List.length_map _
  have houter : names (other.take front.length) = front.names := by
    unfold names at hnames hlength ⊢
    rw [List.map_take, ← hnames, ← hlength, List.take_left]
  have htarget : Reference.target (other.take front.length) = front.target :=
    target_congr houter
  rw [← target_eq_none_iff, ← htarget] at hnamed
  rw [← htarget, ← target_append_of_ne_none hnamed (other.drop front.length),
    List.take_append_drop]

-- ============================================================ the target

/-- What the target of a reference is, and what it depends on. -/
structure TargetIsOutermost (reference : Reference) : Prop where
  /-- The search ends, after no more turns than there are layers, and the
  target is its answer. -/
  ends : ∀ turns, reference.length ≤ turns →
    Search.step^[turns] (.start reference) = .ended reference.target
  /-- It is a name exactly if this is the outermost name. -/
  outermost : ∀ name,
    reference.target = some name ↔ reference.IsOutermostName name
  /-- There is none exactly if no layer has a name. -/
  missing : reference.target = none ↔ reference.Nameless
  nonempty : reference.target ≠ some ""
  /-- Any layers without a name may be put around. -/
  around : ∀ outer : Reference, outer.Nameless →
    Reference.target (outer ++ reference) = reference.target
  /-- Down from a layer with a name there may be anything. -/
  inside : ∀ front other : Reference, front <+: reference →
    ¬ front.Nameless → front.names <+: other.names →
    other.target = reference.target
  /-- All layers may have other kinds. -/
  kinds : ∀ other : Reference, other.names = reference.names →
    other.target = reference.target

/-- A reference refers to the outermost name on its layers, if there is
one. -/
theorem target_is_outermost_name (reference : Reference) :
    reference.TargetIsOutermost where
  ends turns h := by
    rw [← Search.answer_start]
    apply Search.step_iterate
    rw [Search.left_start]
    exact h
  outermost name := target_eq_some_iff
  missing := target_eq_none_iff
  nonempty := target_ne_empty reference
  around outer h := target_nameless_append h reference
  inside front other hfront hnamed hnames := by
    have hown : front.names <+: reference.names := hfront.map Layer.name
    rw [target_eq_of_outer_names hnamed hnames,
      target_eq_of_outer_names hnamed hown]
  kinds other h := target_congr h

/-- An empty name around a name around another name. -/
def muddle : Reference :=
  [⟨some "LIST", some ""⟩, ⟨none, some "Outer"⟩, ⟨some "ENUM", some "Inner"⟩]

/-- It refers to the name in the middle, whatever is put around the whole
or inside the layer of that name, and with other kinds. -/
theorem target_is_outermost_name_muddle :
    Search.step^[3] (.start muddle) = .ended (some "Outer")
      ∧ muddle.target = some "Outer"
      ∧ (∀ kind, Reference.target (⟨kind, none⟩ :: muddle) = some "Outer")
      ∧ ∀ first second inner, Reference.target
          (⟨first, some ""⟩ :: ⟨second, some "Outer"⟩ :: inner)
            = some "Outer" := by
  have h := target_is_outermost_name muddle
  have htarget : muddle.target = some "Outer" :=
    (h.outermost "Outer").mpr
      ⟨[⟨some "LIST", some ""⟩], ⟨none, some "Outer"⟩,
        [⟨some "ENUM", some "Inner"⟩], rfl, by unfold Nameless; decide, rfl,
        by decide⟩
  refine ⟨?_, htarget, fun kind => ?_, fun first second inner => ?_⟩
  · rw [h.ends 3 (by decide), htarget]
  · rw [← htarget]
    apply h.around [⟨kind, none⟩]
    unfold Nameless
    simp
  · rw [← htarget]
    apply h.inside (muddle.take 2) _ (List.take_prefix 2 muddle)
    · unfold Nameless
      decide
    · exact ⟨names inner, rfl⟩

end SchemaDocs.Reference
