/-
Results and how they are written.

A result is a page or an overview. It is written as text for people, or as
a JSON document that also says whether the run was a success; a failure is
written in the same two ways. A JSON document stands on one line, and the
members of its objects are in the order of their keys.
-/
import SchemaDocs.CommandLine.Failure
import SchemaDocs.Json.Printer
import SchemaDocs.Overview
import SchemaDocs.Text.Blank

namespace SchemaDocs.CommandLine

-- ============================================================ results

/-- The result of a run. -/
inductive Output
  | page (name markdown : String)
  | listing (overview : Overview)

/-- A group of an overview: its kind, and its names below. -/
def groupText (coloured : Bool) (group : Kind × List String) : String :=
  Style.heading.paint coloured group.1.label ++ "\n"
    ++ String.join (group.2.map fun name => "  " ++ name ++ "\n")

namespace Output

/-- A result as text. A blank line stands between the groups of an
overview. -/
def text (coloured : Bool) : Output → String
  | page _ markdown => markdown
  | listing overview =>
      "\n".intercalate (overview.groups.map (groupText coloured))

/-- The members of a result in JSON. -/
def members : Output → List (String × Json)
  | page name markdown =>
      [("markdown", .string markdown), ("type_name", .string name)]
  | listing overview =>
      [("total", .ofNat overview.total),
        ("types", Json.sortedObject (overview.groups.map fun (kind, names) =>
          (kind.label, .array (names.map .string))))]

/-- A result as JSON. -/
def json (output : Output) : Json := .object output.members

end Output

-- ============================================================ documents

/-- The JSON document of a run. -/
def document (coloured : Bool) : Except Failure Output → Json
  | .ok output =>
      .object [
        ("data",
          Json.sortedObject (("success", .bool true) :: output.members)),
        ("error", .null), ("json_version", .string "1")]
  | .error failure =>
      .object [("data", .object [("success", .bool false)]),
        ("error", failure.json coloured), ("json_version", .string "1")]

/-- What a run writes, and its exit code. -/
structure Report where
  code : Nat
  output : String
  errors : String
  deriving DecidableEq, Repr

/-- A text that ends in one line break and in no other blank. -/
def endLine (text : String) : String := Text.trimEnd text ++ "\n"

/-- The report of a result in plain text. -/
def plainReport (coloured : Bool) : Except Failure Output → Report
  | .ok output => ⟨0, endLine (output.text coloured), ""⟩
  | .error failure => ⟨1, "", failure.display coloured⟩

/-- The report of a result in JSON. -/
def jsonReport (coloured : Bool) (result : Except Failure Output) : Report :=
  ⟨if result.isOk then 0 else 1, (document coloured result).print ++ "\n", ""⟩

end SchemaDocs.CommandLine
