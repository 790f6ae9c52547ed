/-
The environment of a run.

A few variables stand in for options that are not given, choose what is
logged, and turn colours on and off.
-/

namespace SchemaDocs.CommandLine

/-- The values of the variables that are set. -/
abbrev Environment := String → Option String

namespace Environment

/-- The variables that are looked at. -/
def names : List String :=
  ["GQLDOC_SCHEMA", "GQLDOC_BASE_URL", "GQLDOC_LOG_LEVEL", "GQLDOC_LOG",
    "NO_COLOR",
    "GQLDOC_NO_COLOR", "CLICOLOR_FORCE"]

/-- Whether a switch is on: it is set to something that says neither
nothing nor no. -/
def switchedOn (environment : Environment) (name : String) : Bool :=
  match environment name with
  | some value => value ∉ ["", "0", "false", "False", "FALSE"]
  | none => false

/-- Whether texts are coloured. The outputs are no terminals, so colours
have to be asked for, and nothing may speak against them. -/
def coloursTexts (environment : Environment) : Bool :=
  !environment.switchedOn "NO_COLOR"
    && !environment.switchedOn "GQLDOC_NO_COLOR"
    && (environment "CLICOLOR_FORCE").any (· ≠ "0")

/-- Whether log lines are coloured. They are unless something speaks
against it. -/
def coloursLog (environment : Environment) : Bool :=
  ((environment "NO_COLOR").getD "").isEmpty

end Environment

end SchemaDocs.CommandLine
