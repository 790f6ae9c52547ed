/-
References to types.

A field names its type through layers: a `!` or a pair of brackets is a
nameless layer around another, and the innermost layer carries the name.
A `Reference` is the chain of these layers, outermost first; a field
without a readable type has the empty chain.
-/

namespace SchemaDocs

-- ============================================================ the chain

/-- One layer. Its kind is informative only: what a chain refers to
depends on names alone. -/
structure Layer where
  kind : Option String
  name : Option String
  deriving DecidableEq, Repr

/-- A chain of layers, outermost first. The empty chain is no reference. -/
abbrev Reference := List Layer

namespace Reference

/-- The layer that carries a name. -/
def named (name : String) : Reference := [⟨none, some name⟩]

/-- A nameless layer of unknown kind around `inner`. -/
def wrapping (inner : Reference) : Reference := ⟨none, none⟩ :: inner

/-- The layer of a `!` around `inner`. -/
def nonNull (inner : Reference) : Reference := ⟨some "NON_NULL", none⟩ :: inner

/-- The layer of a pair of brackets around `inner`. -/
def list (inner : Reference) : Reference := ⟨some "LIST", none⟩ :: inner

end Reference

-- ============================================================ resolving

/-- The name a layer exposes. An empty name exposes nothing. -/
def Layer.exposed (layer : Layer) : Option String :=
  layer.name.filter (· ≠ "")

/-- The name of the outermost layer that exposes one. -/
def Reference.target (reference : Reference) : Option String :=
  reference.findSome? Layer.exposed

/-- No layer has a name, or none but the empty one. -/
def Reference.Nameless (reference : Reference) : Prop :=
  ∀ layer ∈ reference, layer.name = none ∨ layer.name = some ""

/-- A layer exposes no name when it has none or the empty one. -/
theorem Layer.exposed_eq_none_iff {layer : Layer} :
    layer.exposed = none ↔ layer.name = none ∨ layer.name = some "" := by
  unfold Layer.exposed
  rw [Option.filter_eq_none_iff]
  cases layer.name with
  | none => simp
  | some name => simp

/-- It exposes any other name. -/
theorem Layer.exposed_eq_some_iff {layer : Layer} {name : String} :
    layer.exposed = some name ↔ layer.name = some name ∧ name ≠ "" := by
  unfold Layer.exposed
  rw [Option.filter_eq_some_iff, decide_eq_true_iff]

/-- Nothing is referred to exactly if no layer exposes a name. -/
theorem Reference.target_eq_none_iff {reference : Reference} :
    reference.target = none ↔ reference.Nameless := by
  unfold Reference.target Reference.Nameless
  rw [List.findSome?_eq_none_iff]
  simp only [Layer.exposed_eq_none_iff]

/-- What is referred to has a name. -/
theorem Reference.target_ne_empty (reference : Reference) :
    reference.target ≠ some "" := by
  intro h
  obtain ⟨layer, -, hlayer⟩ := List.exists_of_findSome?_eq_some h
  exact (Layer.exposed_eq_some_iff.mp hlayer).2 rfl

/-- The name is that of the layers in front, if they have one. -/
theorem Reference.target_append (front back : Reference) :
    Reference.target (front ++ back)
      = (Reference.target front).or (Reference.target back) :=
  List.findSome?_append

/-- Where one part of a chain has a name, what comes behind it does not
matter. -/
theorem Reference.target_append_of_ne_none {front : Reference}
    (h : Reference.target front ≠ none) (back : Reference) :
    Reference.target (front ++ back) = Reference.target front := by
  obtain ⟨name, hname⟩ := Option.ne_none_iff_exists'.mp h
  rw [Reference.target_append, hname]
  rfl

end SchemaDocs
