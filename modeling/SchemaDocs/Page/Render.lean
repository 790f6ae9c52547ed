/-
Documentation pages.

The page of a name holds one block for each type of that name, in code
point order. A block is a header, if one is wanted, and a body. The
header is the name in bold with the description behind it; a scalar's
description stands in its body instead.
-/
import SchemaDocs.Page.Table
import SchemaDocs.Text.Blank

namespace SchemaDocs

/-- What a page shows. -/
structure PageOptions where
  /-- Whether a block starts with its header. -/
  header : Bool := true
  /-- Whether tables have a column of descriptions. -/
  descriptions : Bool := true
  deriving DecidableEq, Repr

namespace Page

-- ============================================================ blocks

/-- The description of a type, unless it is blank. -/
def readable (description : Option String) : Option String :=
  description.filter Text.hasInk

/-- The header of a type, on one line. -/
def header (type : TypeDef) : String :=
  match type.body, readable type.description with
  | .scalar, _ | _, none => "**" ++ type.name ++ "**"
  | _, some description =>
      "**" ++ type.name ++ "**: *" ++ Text.singleLine description ++ "*"

/-- The body of a union: its members as code, which are never linked. -/
def unionBody (name : String) (members : List String) : String :=
  "**`union`** `" ++ name ++ "`"
    ++ (if members.isEmpty then ""
        else " = "
          ++ " | ".intercalate
            (members.map fun member => "`" ++ member ++ "`"))
    ++ "\n"

/-- The body of a scalar: its name and its description as it was given. -/
def scalarBody (name : String) (description : Option String) : String :=
  "`" ++ name ++ "`"
    ++ (match readable description with
        | some description => ": " ++ description
        | none => "")
    ++ "\n"

/-- The body of a type. -/
def body (types : List TypeDef) (base : PageBase) (descriptions : Bool)
    (type : TypeDef) :
    String :=
  match type.body with
  | .object fields | .inputObject fields =>
      Table.ofFields types base descriptions .type type.name fields
  | .interface fields =>
      Table.ofFields types base descriptions .interface type.name fields
  | .union members => unionBody type.name members
  | .enum values => Table.ofValues descriptions type.name values
  | .scalar => scalarBody type.name type.description

/-- The block of a type. -/
def block (types : List TypeDef) (base : PageBase) (options : PageOptions)
    (type : TypeDef) :
    String :=
  let body := body types base options.descriptions type
  if options.header then header type ++ "\n\n" ++ body else body

-- ============================================================ pages

/-- A name that no type has. -/
structure Missing where
  name : String
  deriving DecidableEq, Repr

/-- The wording of a missing name. -/
def Missing.message (missing : Missing) : String :=
  "Type not found: " ++ missing.name

/-- The page of the types named `name`. -/
def render (types : List TypeDef) (base : PageBase) (options : PageOptions)
    (name : String) :
    Except Missing String :=
  match typesNamed types name with
  | [] => .error ⟨name⟩
  | found =>
      .ok (String.join (Text.sorted (found.map (block types base options))))

/-- The page of a name, empty if no type has it. -/
def renderOrEmpty (types : List TypeDef) (base : PageBase)
    (options : PageOptions)
    (name : String) : String :=
  match render types base options name with
  | .ok page => page
  | .error _ => ""

end Page

end SchemaDocs
