/-
Finding the types in an introspection document.

A document is a whole response, the schema object with or without its
wrapper, or the bare list of types. The keys `data`, `__schema` and
`types` are followed in this order, each only where the value at hand has
it; what is reached has to be a list. Its entries are read one by one,
and those that are no type are passed over. A response that reports
errors and has no data is refused for its errors.
-/
import SchemaDocs.Introspection.Record
import SchemaDocs.Json.Parser

namespace SchemaDocs.Introspection

-- ============================================================ errors

/-- Why a document has no types. -/
inductive Error
  /-- The text is not JSON. -/
  | json (fault : Json.Fault)
  /-- The query that should have produced the document failed. -/
  | queryFailed (messages : List String)
  /-- The keys lead to something other than a list. -/
  | notAList (found : Json.Shape)
  deriving DecidableEq, Repr

/-- The wording of an error. -/
def Error.message : Error → String
  | .json fault => fault.message
  | .queryFailed messages =>
      "Invalid introspection result: the introspection query failed: "
        ++ if messages.isEmpty then "no error message given"
          else "; ".intercalate messages
  | .notAList found =>
      "Invalid introspection result: expected a list of types, found "
        ++ found.noun

-- ============================================================ documents

/-- The messages of a response that reports errors and has no data. An
entry of the error list without a text for its message adds none. -/
def failure? (document : Json) : Option (List String) := do
  let errors ← (document.get? "errors").bind Json.items?
  if errors.isEmpty
      || ((document.get? "data").any fun data => !data.isNull) then none
  else
    some (errors.filterMap fun error =>
      (error.get? "message").bind Json.text?)

/-- The value under a key, or the document itself where it has no such key. -/
def follow (document : Json) (key : String) : Json :=
  (document.get? key).getD document

/-- The entries that a document leads to. -/
def entries (document : Json) : Except Error (List Json) :=
  match failure? document with
  | some messages => .error (.queryFailed messages)
  | none =>
      let reached := ["data", "__schema", "types"].foldl follow document
      match reached.items? with
      | some entries => .ok entries
      | none => .error (.notAList reached.shape)

/-- The types of a document: those of its entries that are types, in order. -/
def readDocument (document : Json) : Except Error (List TypeDef) :=
  (entries document).map fun entries => entries.filterMap readType

/-- The types of a document given as text. -/
def load (text : String) : Except Error (List TypeDef) :=
  match Json.parse text with
  | .ok document => readDocument document
  | .error fault => .error (.json fault)

end SchemaDocs.Introspection
