/-
Faults of a command line.

A command line that cannot be run is refused with the reason. Asking for
help or for the version ends a run too, but is no fault.
-/
import SchemaDocs.Program

namespace SchemaDocs.CommandLine

/-- Why a command line is not run. -/
inductive Usage
  | help
  | version
  /-- Nothing at all is given. -/
  | nothingGiven
  | unknownArgument
  | unknownCommand
  | missingCommand
  /-- An argument or an option that has to be there is not. -/
  | missingArgument
  /-- A value is missing or is none of the possible ones. -/
  | invalidValue
  /-- A value cannot be read. -/
  | unreadableValue
  /-- An option without a value is given one. -/
  | unneededValue
  /-- An option is given twice. -/
  | repeated
  deriving DecidableEq, Repr

namespace Usage

/-- The exit code: help and the version were asked for, all else is a fault. -/
def code : Usage → Nat
  | help | version => 0
  | _ => 2

/-- The names of the commands and options. The text is this library's own;
the names are the program's. -/
def summary : String :=
  "Print the documentation of a schema's types as markdown.\n\n"
    ++ "Usage: " ++ Program.name ++ " [OPTIONS] <COMMAND>\n\n"
    ++ "Commands:\n"
    ++ "  print <TYPE>  Print the documentation of one type\n"
    ++ "  list          List the types of the schema by kind\n"
    ++ "  help          Print this help\n\n"
    ++ "Options:\n"
    ++ "  -s, --schema <PATH>        "
    ++ "The schema: an introspection result, or the schema\n"
    ++ "                             "
    ++ "language in a .graphql, .graphqls, .gql or .sdl file;\n"
    ++ "                             "
    ++ "- reads an introspection result from the input\n"
    ++ "      --no-header            "
    ++ "print: leave out the line with the type's name\n"
    ++ "      --no-descriptions      "
    ++ "print: leave out the column of descriptions\n"
    ++ "      --base-url <BASE_URL>  "
    ++ "print: the page that documents the schema\n"
    ++ "      --include-builtins     "
    ++ "list: also list the types that every schema has\n"
    ++ "  -l, --log <LEVEL>          "
    ++ "Log up to a level: error, warn, info, debug, trace\n"
    ++ "      --format <FORMAT>      The output's format: plain or json\n"
    ++ "  -h, --help                 Print this help\n"
    ++ "  -V, --version              Print the version\n"

/-- The reason in words, which are this library's own. -/
def reason : Usage → String
  | help => "help was asked for"
  | version => "the version was asked for"
  | nothingGiven => "no command is given"
  | unknownArgument => "an argument is not known"
  | unknownCommand => "the command is not known"
  | missingCommand => "a command is needed"
  | missingArgument => "a required argument is missing"
  | invalidValue => "a value is missing or is none of the possible values"
  | unreadableValue => "a value cannot be read"
  | unneededValue => "an option that takes no value is given one"
  | repeated => "an option is given more than once"

/-- What is written: to the output where it was asked for, otherwise to
the error output. -/
def text : Usage → String
  | help => summary
  | version => Program.name ++ " " ++ Program.version ++ "\n"
  | fault => "error: " ++ fault.reason ++ "\n\n" ++ summary

end Usage

end SchemaDocs.CommandLine
