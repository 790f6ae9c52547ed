/-
Type expressions.

A field's type is written as a name, or as brackets around another type;
an exclamation mark may follow either, but not another exclamation mark.
Its layers are the chain that an introspection result gives for it: a
layer for each mark and for each pair of brackets, and one for the name.
-/
import SchemaDocs.Schema.Reference
import SchemaDocs.Sdl.Name

namespace SchemaDocs.Sdl

/-- A type expression. -/
inductive TypeExpr
  | named (name : Name)
  | nonNullNamed (name : Name)
  | list (item : TypeExpr)
  | nonNullList (item : TypeExpr)
  deriving DecidableEq, Repr

namespace TypeExpr

/-- The name inside all brackets. -/
def innermost : TypeExpr → Name
  | named name | nonNullNamed name => name
  | list item | nonNullList item => item.innermost

/-- The layers of a type, outermost first. -/
def layers : TypeExpr → Reference
  | named name => .named name.text
  | nonNullNamed name => .nonNull (.named name.text)
  | list item => .list item.layers
  | nonNullList item => .nonNull (.list item.layers)

/-- The same type with an exclamation mark behind it. -/
def required : TypeExpr → TypeExpr
  | named name => nonNullNamed name
  | list item => nonNullList item
  | type => type

/-- A type refers to the name inside its brackets. -/
theorem target_layers (type : TypeExpr) :
    Reference.target type.layers = some type.innermost.text := by
  induction type with
  | named name | nonNullNamed name =>
      simp [layers, innermost, Reference.target, Reference.named,
        Reference.nonNull,
        Layer.exposed, name.text_ne_empty]
  | list item ih | nonNullList item ih =>
      simpa [layers, innermost, Reference.target, Reference.list,
        Reference.nonNull,
        Layer.exposed] using ih

end TypeExpr

end SchemaDocs.Sdl
