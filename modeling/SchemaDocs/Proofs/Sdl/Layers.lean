/-
Types of the schema language, and their layers.

A type is a name or brackets around another type, and an exclamation mark
may follow either. The mark goes with what it follows, and is a layer of
its own around it. Still the layers of a type are all of it
(`layers_tell_types`): the type is got back from them (`ofLayers?`), and
from no other chain is any type. A chain is the layers of a type if it
ends in a name with nothing else on its layer, and has nothing but marks
and brackets around that, no mark directly around a mark (`Wraps`).

# How the proof goes

Layers follow the type, and reading a chain follows its layers. So the
one direction is an induction on the type (`ofLayers?_layers`), the other
on the chain (`layers_of_ofLayers?`). What is around the name of a type is
known before (`wrappers`), and whatever looks like it is around a name of
some type (`exists_of_wrappers`), by induction from the inside: a mark
that is put in front finds a type without one, since no mark stands around
a mark.
-/
import SchemaDocs.Sdl.Cursor

namespace SchemaDocs.Sdl

-- ============================================================ the layers

/-- The layer of an exclamation mark. -/
def markLayer : Layer := ⟨some "NON_NULL", none⟩

/-- The layer of a pair of brackets. -/
def bracketLayer : Layer := ⟨some "LIST", none⟩

/-- The layers are marks and brackets around the name, whose layer has
nothing else. No mark stands directly around a mark. -/
def Wraps (chain : Reference) (name : Name) : Prop :=
  ∃ wrappers : List Layer, chain = wrappers ++ .named name.text
    ∧ (∀ layer ∈ wrappers, layer = markLayer ∨ layer = bracketLayer)
    ∧ ¬ [markLayer, markLayer] <:+: wrappers

namespace TypeExpr

/-- The layers around the name of a type, outermost first. -/
def wrappers : TypeExpr → List Layer
  | named _ => []
  | nonNullNamed _ => [markLayer]
  | list item => bracketLayer :: item.wrappers
  | nonNullList item => markLayer :: bracketLayer :: item.wrappers

/-- The layers of a type are those around its name, and the name. -/
theorem layers_eq (type : TypeExpr) :
    type.layers = type.wrappers ++ .named type.innermost.text := by
  induction type with
  | named name | nonNullNamed name => rfl
  | list item ih | nonNullList item ih =>
      rw [layers, ih]
      rfl

-- ========================================================== the way back

/-- The type with an exclamation mark behind it. No second one may follow
an exclamation mark. -/
def required? : TypeExpr → Option TypeExpr
  | named name => some (nonNullNamed name)
  | list item => some (nonNullList item)
  | nonNullNamed _ | nonNullList _ => none

/-- The type that is the name on a layer, if nothing else is on it. -/
def ofLayer? : Layer → Option TypeExpr
  | ⟨none, some text⟩ =>
      if valid : isName text.toList = true then some (named ⟨text, valid⟩)
      else none
  | _ => none

/-- The type that has these layers. -/
def ofLayers? : Reference → Option TypeExpr
  | [] => none
  | layer :: inside =>
      if layer = markLayer then (ofLayers? inside).bind required?
      else if layer = bracketLayer then (ofLayers? inside).map list
      else if inside = [] then ofLayer? layer
      else none

/-- A mark on the outside makes the type required, if it can be. -/
theorem ofLayers?_mark (inside : Reference) :
    ofLayers? (markLayer :: inside) = (ofLayers? inside).bind required? := by
  rw [ofLayers?, if_pos rfl]

/-- Brackets on the outside make a list of the type. -/
theorem ofLayers?_brackets (inside : Reference) :
    ofLayers? (bracketLayer :: inside) = (ofLayers? inside).map list := by
  rw [ofLayers?, if_neg (by decide), if_pos rfl]

theorem ofLayers?_named (name : Name) :
    ofLayers? (Reference.named name.text) = some (named name) := by
  have hmark : ¬ (⟨none, some name.text⟩ : Layer) = markLayer := nofun
  have hbrackets : ¬ (⟨none, some name.text⟩ : Layer) = bracketLayer := nofun
  rw [Reference.named, ofLayers?, if_neg hmark, if_neg hbrackets, if_pos rfl,
    ofLayer?, dif_pos name.valid]

/-- A type is got back from its layers. -/
theorem ofLayers?_layers (type : TypeExpr) :
    ofLayers? type.layers = some type := by
  induction type with
  | named name => exact ofLayers?_named name
  | nonNullNamed name =>
      show ofLayers? (markLayer :: Reference.named name.text) = _
      rw [ofLayers?_mark, ofLayers?_named]
      rfl
  | list item ih =>
      show ofLayers? (bracketLayer :: item.layers) = _
      rw [ofLayers?_brackets, ih]
      rfl
  | nonNullList item ih =>
      show ofLayers? (markLayer :: bracketLayer :: item.layers) = _
      rw [ofLayers?_mark, ofLayers?_brackets, ih]
      rfl

/-- What is required has one layer more. -/
theorem layers_of_required? {item type : TypeExpr}
    (h : item.required? = some type) :
    type.layers = markLayer :: item.layers := by
  cases item with
  | named name | list inner =>
      obtain rfl := Option.some.inj h
      rfl
  | nonNullNamed name | nonNullList inner => cases h

theorem layers_of_ofLayer? {layer : Layer} {type : TypeExpr}
    (h : ofLayer? layer = some type) : type.layers = [layer] := by
  unfold ofLayer? at h
  split at h
  · split at h
    · obtain rfl := Option.some.inj h
      rfl
    · cases h
  · cases h

/-- The layers of the type that a chain is read as are that chain. -/
theorem layers_of_ofLayers? {chain : Reference} {type : TypeExpr}
    (h : ofLayers? chain = some type) : type.layers = chain := by
  induction chain generalizing type with
  | nil => cases h
  | cons layer inside ih =>
      by_cases hmark : layer = markLayer
      · rw [hmark, ofLayers?_mark] at h
        obtain ⟨item, hitem, htype⟩ := Option.bind_eq_some_iff.mp h
        rw [layers_of_required? htype, ih hitem, hmark]
      · by_cases hbrackets : layer = bracketLayer
        · rw [hbrackets, ofLayers?_brackets] at h
          obtain ⟨item, hitem, rfl⟩ := Option.map_eq_some_iff.mp h
          show bracketLayer :: item.layers = _
          rw [ih hitem, hbrackets]
        · rw [ofLayers?, if_neg hmark, if_neg hbrackets] at h
          split at h
          · next hinside => rw [hinside, layers_of_ofLayer? h]
          · cases h

/-- The layers of `[Post!]!` are read as that type. -/
example : ofLayers? [markLayer, bracketLayer, markLayer, ⟨none, some "Post"⟩]
    = some (nonNullList (nonNullNamed ⟨"Post", rfl⟩)) := by decide

-- ======================================================== chains of types

/-- Around the name of a type are marks and brackets only. -/
theorem of_mem_wrappers {type : TypeExpr} {layer : Layer}
    (h : layer ∈ type.wrappers) :
    layer = markLayer ∨ layer = bracketLayer := by
  induction type with
  | named name => cases h
  | nonNullNamed name => exact .inl (List.mem_singleton.mp h)
  | list item ih =>
      rcases List.mem_cons.mp h with rfl | hitem
      · exact .inr rfl
      · exact ih hitem
  | nonNullList item ih =>
      rcases List.mem_cons.mp h with rfl | hlist
      · exact .inl rfl
      · rcases List.mem_cons.mp hlist with rfl | hitem
        · exact .inr rfl
        · exact ih hitem

/-- Brackets in front bring no mark around a mark about. -/
theorem marks_infix_of_brackets {inner : List Layer}
    (h : [markLayer, markLayer] <:+: bracketLayer :: inner) :
    [markLayer, markLayer] <:+: inner := by
  rcases List.infix_cons_iff.mp h with hstart | hlater
  · have hhead := (List.cons_prefix_cons.mp hstart).1
    exact absurd hhead (by decide)
  · exact hlater

/-- Nor does a mark in front of brackets. -/
theorem marks_infix_of_mark_brackets {inner : List Layer}
    (h : [markLayer, markLayer] <:+: markLayer :: bracketLayer :: inner) :
    [markLayer, markLayer] <:+: inner := by
  rcases List.infix_cons_iff.mp h with hstart | hlater
  · have hrest := (List.cons_prefix_cons.mp hstart).2
    have hhead := (List.cons_prefix_cons.mp hrest).1
    exact absurd hhead (by decide)
  · exact marks_infix_of_brackets hlater

/-- No mark of a type is around a mark. -/
theorem not_marks_infix_wrappers (type : TypeExpr) :
    ¬ [markLayer, markLayer] <:+: type.wrappers := by
  induction type with
  | named name | nonNullNamed name =>
      intro h
      exact absurd h.length_le (by simp [wrappers])
  | list item ih => exact fun h => ih (marks_infix_of_brackets h)
  | nonNullList item ih => exact fun h => ih (marks_infix_of_mark_brackets h)

/-- Marks and brackets, no mark directly around a mark, are around any
name as the layers of a type. -/
theorem exists_of_wrappers {around : List Layer} (name : Name)
    (hkinds : ∀ layer ∈ around, layer = markLayer ∨ layer = bracketLayer)
    (hmarks : ¬ [markLayer, markLayer] <:+: around) :
    ∃ type : TypeExpr, type.wrappers = around ∧ type.innermost = name := by
  induction around with
  | nil => exact ⟨named name, rfl, rfl⟩
  | cons layer around ih =>
      obtain ⟨hlayer, hinner⟩ := List.forall_mem_cons.mp hkinds
      obtain ⟨item, hwrappers, hname⟩ :=
        ih hinner fun h => hmarks (List.infix_cons h)
      rcases hlayer with rfl | rfl
      · cases item with
        | named name =>
            exact ⟨nonNullNamed name, by rw [← hwrappers]; rfl, hname⟩
        | list inner =>
            exact ⟨nonNullList inner, by rw [← hwrappers]; rfl, hname⟩
        | nonNullNamed name =>
            -- the mark stands around the mark behind the name
            rw [← hwrappers] at hmarks
            exact absurd (List.infix_refl _) hmarks
        | nonNullList inner =>
            rw [← hwrappers] at hmarks
            exact absurd
              (List.prefix_append [markLayer, markLayer] _).isInfix hmarks
      · exact ⟨list item, by rw [← hwrappers]; rfl, hname⟩

/-- A chain wraps a name exactly if it has the layers of a type with that
name inside. -/
theorem wraps_iff {chain : Reference} {name : Name} :
    Wraps chain name
      ↔ ∃ type : TypeExpr, type.layers = chain ∧ type.innermost = name := by
  constructor
  · rintro ⟨around, rfl, hkinds, hmarks⟩
    obtain ⟨type, hwrappers, hname⟩ := exists_of_wrappers name hkinds hmarks
    exact ⟨type, by rw [layers_eq, hwrappers, hname], hname⟩
  · rintro ⟨type, rfl, rfl⟩
    exact ⟨type.wrappers, layers_eq type, fun _ => of_mem_wrappers,
      not_marks_infix_wrappers type⟩

-- ============================================================ as written

/-- A type as it is written. -/
def tokens : TypeExpr → List Token
  | named name => [.name name]
  | nonNullNamed name => [.name name, .mark .bang]
  | list item => .mark .openBracket :: (item.tokens ++ [.mark .closeBracket])
  | nonNullList item =>
      .mark .openBracket :: (item.tokens ++ [.mark .closeBracket, .mark .bang])

/-- Without an exclamation mark behind it a type stays as it is. -/
theorem readBang_other (type : TypeExpr) {rest : List Token}
    (h : rest.head? ≠ some (.mark .bang)) :
    readBang type ⟨rest, true⟩ = (type, ⟨rest, true⟩) := by
  have hat : ¬ (Cursor.at? ⟨rest, true⟩ .bang) = true := by
    unfold Cursor.at?
    rw [decide_eq_true_iff]
    exact h
  rw [readBang, if_neg hat]

/-- Brackets around an item are read with it. -/
theorem readType_brackets {tokens rest : List Token} {item : TypeExpr}
    (h : readType tokens = (some item, ⟨.mark .closeBracket :: rest, true⟩)) :
    readType (.mark .openBracket :: tokens)
      = (some (readBang (list item) ⟨rest, true⟩).1,
          (readBang (list item) ⟨rest, true⟩).2) := by
  rw [readType, h]
  rfl

/-- What is written is read as the type, up to a token that is no
exclamation mark. -/
theorem readType_tokens (type : TypeExpr) {rest : List Token}
    (h : rest.head? ≠ some (.mark .bang)) :
    readType (type.tokens ++ rest) = (some type, ⟨rest, true⟩) := by
  induction type generalizing rest with
  | named name =>
      show readType (.name name :: rest) = _
      rw [readType, readBang_other _ h]
  | nonNullNamed name => rfl
  | list item ih =>
      have hitem : readType (item.tokens ++ .mark .closeBracket :: rest)
          = (some item, ⟨.mark .closeBracket :: rest, true⟩) := ih nofun
      rw [tokens, List.cons_append, List.append_assoc, List.singleton_append,
        readType_brackets hitem, readBang_other _ h]
  | nonNullList item ih =>
      have hitem : readType
            (item.tokens ++ .mark .closeBracket :: .mark .bang :: rest)
          = (some item, ⟨.mark .closeBracket :: .mark .bang :: rest, true⟩) :=
        ih nofun
      rw [tokens, List.cons_append, List.append_assoc, List.cons_append,
        List.singleton_append, readType_brackets hitem]
      rfl

/-- There is a layer for each pair of brackets, and one for each
exclamation mark. -/
theorem countP_layers (type : TypeExpr) :
    type.layers.countP (·.kind = some "LIST")
        = type.tokens.count (.mark .openBracket)
      ∧ type.layers.countP (·.kind = some "NON_NULL")
        = type.tokens.count (.mark .bang) := by
  induction type with
  | named name | nonNullNamed name => exact ⟨rfl, rfl⟩
  | list item ih | nonNullList item ih =>
      obtain ⟨hbrackets, hmarks⟩ := ih
      constructor
      · simpa [layers, tokens, Reference.list, Reference.nonNull]
          using hbrackets
      · simpa [layers, tokens, Reference.list, Reference.nonNull] using hmarks

/-- What the layers of a type share with the way it is written. -/
structure LayersAsWritten (type : TypeExpr) : Prop where
  /-- What is written is read as the type. -/
  read : readType type.tokens = (some type, ⟨[], true⟩)
  target : Reference.target type.layers = some type.innermost.text
  brackets : type.layers.countP (·.kind = some "LIST")
    = type.tokens.count (.mark .openBracket)
  marks : type.layers.countP (·.kind = some "NON_NULL")
    = type.tokens.count (.mark .bang)

theorem layersAsWritten (type : TypeExpr) : type.LayersAsWritten where
  read := by
    have h : readType (type.tokens ++ []) = (some type, ⟨[], true⟩) :=
      readType_tokens type nofun
    rwa [List.append_nil] at h
  target := target_layers type
  brackets := (countP_layers type).1
  marks := (countP_layers type).2

-- ============================================================ all of it

/-- The layers of a type are all of it: no other type has them, and the
type is got back from them. The chains that types are got back from are
those that wrap a name, and they are the layers of that type. A type
refers to the name inside, and it has as many layers of either kind as
there are brackets and exclamation marks where it is written. -/
theorem layers_tell_types :
    (∀ type other : TypeExpr, type.layers = other.layers ↔ type = other)
      ∧ (∀ (chain : Reference) (type : TypeExpr),
          ofLayers? chain = some type ↔ type.layers = chain)
      ∧ (∀ (chain : Reference) (name : Name),
          Wraps chain name
            ↔ ∃ type, ofLayers? chain = some type ∧ type.innermost = name)
      ∧ ∀ type : TypeExpr, type.LayersAsWritten := by
  have hread : ∀ (chain : Reference) (type : TypeExpr),
      ofLayers? chain = some type ↔ type.layers = chain := by
    intro chain type
    constructor
    · exact layers_of_ofLayers?
    · rintro rfl
      exact ofLayers?_layers type
  refine ⟨fun type other => ⟨fun h => ?_, congrArg layers⟩, hread,
    fun chain name => ?_, layersAsWritten⟩
  · have htype := ofLayers?_layers type
    rw [h, ofLayers?_layers other] at htype
    exact (Option.some.inj htype).symm
  · simp only [wraps_iff, hread]

end TypeExpr

end SchemaDocs.Sdl
