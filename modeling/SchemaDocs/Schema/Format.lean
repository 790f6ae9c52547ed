/-
The ways to write a schema down.

A schema comes as an introspection result or in the schema language. The
ending of its path tells which.
-/

namespace SchemaDocs

-- ============================================================ paths

/-- The part of a path behind its last slash. -/
def fileName (path : List Char) : List Char :=
  (path.reverse.takeWhile (· ≠ '/')).reverse

/-- The part of a file name behind its last dot, unless that dot is its
first character. -/
def extension? (path : List Char) : Option (List Char) :=
  match (fileName path).reverse.span (· ≠ '.') with
  | (ending, '.' :: _ :: _) => some ending.reverse
  | _ => none

-- ============================================================ formats

/-- The two ways to write a schema down. -/
inductive SchemaFormat
  | introspection | sdl
  deriving DecidableEq, Repr

namespace SchemaFormat

/-- The name of a format in a log line. -/
def label : SchemaFormat → String
  | introspection => "Introspection"
  | sdl => "Sdl"

/-- The endings of files in the schema language. -/
def sdlEndings : List String := ["graphql", "graphqls", "gql", "sdl"]

/-- The format of the schema at a path. The case of the ending is of no
account. -/
def ofPath (path : String) : SchemaFormat :=
  match extension? path.toList with
  | some ending =>
      if sdlEndings.contains (String.ofList (ending.map Char.toLower)) then sdl
      else introspection
  | none => introspection

end SchemaFormat

end SchemaDocs
