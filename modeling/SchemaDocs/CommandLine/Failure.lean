/-
Failed runs.

A run fails because the schema cannot be read, because it makes no sense,
or because it has no type of the wanted name. Most failures come with a
hint at what to do about them.
-/
import SchemaDocs.CommandLine.Files
import SchemaDocs.CommandLine.Style
import SchemaDocs.Introspection.Document
import SchemaDocs.Json.Basic
import SchemaDocs.Page.Render
import SchemaDocs.Program
import SchemaDocs.Sdl.Schema

namespace SchemaDocs.CommandLine

/-- Why a run fails. -/
inductive Failure
  /-- The schema at that path cannot be read. -/
  | unreadable (path : String) (fault : ReadFault)
  | introspection (error : Introspection.Error)
  | sdl (error : Sdl.Error)
  /-- A type is missing from the schema at that path, and perhaps another
  type has a name like it. -/
  | missing (type : Page.Missing) (path : String) (closest : Option String)
  deriving DecidableEq, Repr

namespace Failure

/-- The wording of a failure. -/
def message : Failure → String
  | unreadable path fault =>
      (if isInput path then "Could not read the schema from stdin: "
        else "Could not read schema file " ++ path ++ ": ") ++ fault.message
  | introspection error => error.message
  | sdl error => error.message
  | missing type _ _ => type.message

/-- The hint of a failure, if there is one. -/
def hint? (coloured : Bool) : Failure → Option String
  | unreadable _ _ => none
  | introspection _ =>
      some ("Make sure the file holds the JSON result of an introspection "
        ++ "query, shaped like "
        ++ Style.command.paint coloured
          "\x7b\"data\": \x7b\"__schema\": \x7b\"types\": [...]\x7d\x7d\x7d"
        ++ ".")
  | sdl _ =>
      some ("Fix the syntax errors in the schema, or pass an introspection "
        ++ "result instead.")
  | missing _ path closest =>
      let list :=
        Style.command.paint coloured
          (Program.name ++ " list --schema " ++ path)
      some (match closest with
        | some name =>
            "Did you mean " ++ Style.command.paint coloured name ++ "? Run "
              ++ list
              ++ " to see every type."
        | none => "Run " ++ list ++ " to see every type.")

/-- A failure as it is written for people, hint included. -/
def display (coloured : Bool) (failure : Failure) : String :=
  Style.error.paint coloured "error:" ++ " " ++ failure.message ++ "\n"
    ++ (match failure.hint? coloured with
        | some hint =>
            "        " ++ Style.hint.paint coloured "HINT:" ++ " " ++ hint
              ++ "\n"
        | none => "")

/-- A failure as JSON. -/
def json (coloured : Bool) (failure : Failure) : Json :=
  .object [("message", .string failure.message),
    ("suggestion", .ofText? (failure.hint? coloured))]

end Failure

end SchemaDocs.CommandLine
