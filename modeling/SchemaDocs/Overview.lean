/-
Overviews of schemas.

An overview lists the names of a schema's types by kind, in code point
order within a kind. The types that every schema has are left out unless
they are asked for.
-/
import SchemaDocs.Schema.Basic
import SchemaDocs.Text.Sorted

namespace SchemaDocs

/-- The names of the types of each kind. -/
structure Overview where
  names : Kind → List String

namespace Overview

/-- The overview of a schema. -/
def ofTypes (types : List TypeDef) (withBuiltins : Bool) : Overview where
  names kind :=
    Text.sorted <|
      (types.filter fun type =>
        type.kind = kind && (withBuiltins || !type.isBuiltin)).map TypeDef.name

/-- The kinds that have names, with their names. -/
def groups (overview : Overview) : List (Kind × List String) :=
  (Kind.all.map fun kind => (kind, overview.names kind)).filter fun group =>
    !group.2.isEmpty

/-- The number of names of all kinds. -/
def total (overview : Overview) : Nat :=
  (Kind.all.flatMap overview.names).length

end Overview

end SchemaDocs
