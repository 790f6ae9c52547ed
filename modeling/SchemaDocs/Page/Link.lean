/-
Links to types.

A type name in a page is linked to the type's own page when exactly one
type has the name. An unknown name and a name that several types share
stay plain.
-/
import SchemaDocs.Page.Base
import SchemaDocs.Schema.Basic

namespace SchemaDocs

/-- A type name as it stands in a page. -/
inductive Link
  | linked (name url : String)
  | plain (name : String)
  deriving DecidableEq, Repr

namespace Link

/-- The name that is shown. -/
def name : Link → String
  | linked name _ => name
  | plain name => name

/-- Where the link leads, if it is one. -/
def url? : Link → Option String
  | linked _ url => some url
  | plain _ => none

/-- The markdown of a link: the name as code, and perhaps its target. -/
def markdown : Link → String
  | linked name url => "[`" ++ name ++ "`](" ++ url ++ ")"
  | plain name => "`" ++ name ++ "`"

end Link

/-- The link to `name` in a page about one of `types`. -/
def linkTo (types : List TypeDef) (base : PageBase) (name : String) : Link :=
  if (typesNamed types name).length = 1 then .linked name (base.pageUrl name)
  else .plain name

end SchemaDocs
