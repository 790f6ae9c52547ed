/-
Reading tokens in spite of mistakes.

A reader works on the tokens that are left and remembers whether
everything so far was in order. At a mistake it notes that and goes on, so
that what can be read of a document is read.
-/
import SchemaDocs.Sdl.Token
import SchemaDocs.Sdl.TypeExpr

namespace SchemaDocs.Sdl

/-- The tokens that are left, and whether all was in order before them. -/
structure Cursor where
  rest : List Token
  sound : Bool
  deriving DecidableEq, Repr

namespace Cursor

/-- Notes a mistake. -/
def spoil (cursor : Cursor) : Cursor := { cursor with sound := false }

/-- Passes over the next token, whatever it is. -/
def advance (cursor : Cursor) : Cursor :=
  { cursor with rest := cursor.rest.tail }

/-- Whether that mark comes next. -/
def at? (cursor : Cursor) (mark : Mark) : Bool :=
  cursor.rest.head? = some (.mark mark)

/-- Passes over a mark that should come next. -/
def expect (cursor : Cursor) (mark : Mark) : Cursor :=
  if cursor.at? mark then cursor.advance else cursor.spoil

/-- Advancing never adds tokens. -/
theorem length_advance (cursor : Cursor) :
    cursor.advance.rest.length ≤ cursor.rest.length := by
  simp [advance]

/-- Nor does expecting a mark. -/
theorem length_expect (cursor : Cursor) (mark : Mark) :
    (cursor.expect mark).rest.length ≤ cursor.rest.length := by
  unfold expect
  split
  · exact length_advance cursor
  · exact Nat.le_refl _

end Cursor

-- ============================================================ types

/-- A type with the exclamation mark that may follow it. -/
def readBang (type : TypeExpr) (cursor : Cursor) : TypeExpr × Cursor :=
  if cursor.at? .bang then (type.required, cursor.advance) else (type, cursor)

/-- Reads a type. A token in the place of a type goes with it, and then
none of the brackets around it is waited for. -/
def readType : List Token → Option TypeExpr × Cursor
  | .name name :: rest =>
      let (type, cursor) := readBang (.named name) ⟨rest, true⟩
      (some type, cursor)
  | .mark .openBracket :: rest =>
      match readType rest with
      | (some item, cursor) =>
          let (type, after) :=
            readBang (.list item) (cursor.expect .closeBracket)
          (some type, after)
      | (none, cursor) => (none, cursor)
  | rest => (none, ⟨rest.tail, false⟩)

/-- An exclamation mark never adds tokens. -/
theorem length_readBang (type : TypeExpr) (cursor : Cursor) :
    (readBang type cursor).2.rest.length ≤ cursor.rest.length := by
  unfold readBang
  split
  · exact Cursor.length_advance cursor
  · exact Nat.le_refl _

/-- Reading a type never adds tokens. -/
theorem length_readType (tokens : List Token) :
    (readType tokens).2.rest.length ≤ tokens.length := by
  fun_induction readType tokens with
  | case1 name rest type cursor h =>
      have := length_readBang (.named name) ⟨rest, true⟩
      rw [h] at this
      simp only [List.length_cons] at this ⊢
      omega
  | case2 rest item cursor hr type after h ih =>
      have := length_readBang (.list item) (cursor.expect .closeBracket)
      have := cursor.length_expect .closeBracket
      simp_all only [List.length_cons]
      omega
  | case3 rest cursor hr ih =>
      simp_all only [List.length_cons]
      omega
  | case4 => simp

end SchemaDocs.Sdl
