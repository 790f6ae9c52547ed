/-
Tables of members.

Fields and enum values are shown as a table that looks like a definition:
the opening row holds the keyword, the name and an opening brace, each
member has a row, and the closing row holds the closing brace. Without
descriptions there is one column, with them there are two.
-/
import SchemaDocs.Page.Link
import SchemaDocs.Text.Line
import SchemaDocs.Text.Sorted

namespace SchemaDocs.Table

-- ============================================================ rows

/-- The keyword in front of the name of a type with fields. -/
inductive Owner
  | type | interface
  deriving DecidableEq, Repr

/-- An owner's keyword. -/
def Owner.keyword : Owner → String
  | type => "type"
  | interface => "interface"

/-- A row whose second column is a description. -/
def row (descriptions : Bool) (first : String) (description : Option String) :
    String :=
  "| " ++ first
    ++ (if descriptions then " | " ++ Text.cell description ++ " |\n"
        else " |\n")

/-- A row whose second column is empty. -/
def bareRow (descriptions : Bool) (first : String) : String :=
  "| " ++ first ++ (if descriptions then " | |\n" else " |\n")

/-- The row between the opening row and the members. -/
def delimiter (descriptions : Bool) : String :=
  if descriptions then "|-|-|\n" else "|-|\n"

/-- The opening row: a keyword, a name as markdown, and a brace. -/
def opening (descriptions : Bool) (keyword name : String) : String :=
  bareRow descriptions ("**`" ++ keyword ++ "`** " ++ name ++ " `\x7b`")

/-- The closing row. -/
def closing (descriptions : Bool) : String :=
  bareRow descriptions "`\x7d`"

/-- What a member's row is indented by. -/
def indent : String := "&nbsp; &nbsp; "

-- ============================================================ fields

/-- The name that a field's type is shown by; empty when it has none. -/
def shownType (field : Field) : String :=
  field.type.target.getD ""

/-- The row of a field: its name and the link to its type. -/
def fieldRow (types : List TypeDef) (base : PageBase) (descriptions : Bool)
    (field : Field) :
    String :=
  row descriptions
    (indent ++ "`" ++ field.name ++ ":` "
      ++ (linkTo types base (shownType field)).markdown)
    field.description

/-- The table of a type's fields. The rows are in the order of their whole
texts, so that `id2` comes before `id`, whose row goes on with a colon. -/
def ofFields (types : List TypeDef) (base : PageBase) (descriptions : Bool)
    (owner : Owner)
    (name : String) (fields : List Field) : String :=
  opening descriptions owner.keyword (linkTo types base name).markdown
    ++ delimiter descriptions
    ++ String.join
      (Text.sorted (fields.map (fieldRow types base descriptions)))
    ++ closing descriptions

-- ============================================================ enum values

/-- The row of an enum value. -/
def valueRow (descriptions : Bool) (value : EnumValue) : String :=
  row descriptions (indent ++ "`" ++ value.name ++ "`") value.description

/-- The rows of enum values in the order they were given, from the
delimiter row to the closing row. -/
def valueRows (descriptions : Bool) (values : List EnumValue) : String :=
  delimiter descriptions ++ String.join (values.map (valueRow descriptions))
    ++ closing descriptions

/-- The table of an enum. Its name is never linked. -/
def ofValues (descriptions : Bool) (name : String) (values : List EnumValue) :
    String :=
  opening descriptions "enum" ("`" ++ name ++ "`")
    ++ valueRows descriptions values

end SchemaDocs.Table
