/-
What the program calls itself.
-/

namespace SchemaDocs.Program

/-- The name that the program is called by. -/
def name : String := "gqldoc"

/-- The version of the program. -/
def version : String := "0.1.0"

end SchemaDocs.Program
