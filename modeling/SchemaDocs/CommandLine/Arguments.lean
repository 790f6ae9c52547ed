/-
Reading a command line.

A command line is a list of arguments at two levels: those of the program
up to the name of a command, and those of the command behind it. An option
may be given once at a level, its value behind an equals sign, behind the
letter of the option, or as the next argument. A value is looked at only
when the argument behind it is known to be good, so an unknown argument is
the first to be named.
-/
import SchemaDocs.CommandLine.Environment
import SchemaDocs.CommandLine.Usage
import SchemaDocs.Log.Event
import SchemaDocs.Page.Base
import SchemaDocs.Page.Render

namespace SchemaDocs.CommandLine

-- ============================================================ results

/-- How results are written. -/
inductive OutputFormat
  | plain | json
  deriving DecidableEq, Repr

/-- The format of that name. -/
def OutputFormat.ofName? : String → Option OutputFormat
  | "plain" => some plain
  | "json" => some json
  | _ => none

/-- What is to be done with a schema. -/
inductive Task
  /-- Print the page of a type. -/
  | print (name : String) (options : PageOptions) (base : PageBase)
  /-- List the types. -/
  | list (withBuiltins : Bool)
  deriving DecidableEq, Repr

/-- A command line that can be run. -/
structure Invocation where
  task : Task
  /-- The path of the schema. -/
  schema : String
  level : Option Log.Level
  format : OutputFormat
  deriving DecidableEq, Repr

-- ============================================================ options

/-- The level of an argument: the program or one of its commands. -/
inductive Scope
  | program | print | list
  deriving DecidableEq, Repr

/-- The options. -/
inductive Flag
  | schema | baseUrl | log | format | includeBuiltins | noHeader
  | noDescriptions | help | version
  deriving DecidableEq, Repr

namespace Flag

/-- The name of an option. -/
def name : Flag → String
  | schema => "schema"
  | baseUrl => "base-url"
  | log => "log"
  | format => "format"
  | includeBuiltins => "include-builtins"
  | noHeader => "no-header"
  | noDescriptions => "no-descriptions"
  | help => "help"
  | version => "version"

/-- The letter of an option, if it has one. -/
def letter? : Flag → Option Char
  | schema => some 's'
  | log => some 'l'
  | help => some 'h'
  | version => some 'V'
  | _ => none

/-- Whether an option has a value. -/
def takesValue : Flag → Bool
  | schema | baseUrl | log | format => true
  | _ => false

end Flag

/-- The options of a level. -/
def Scope.flags : Scope → List Flag
  | program => [.log, .format, .help, .version]
  | print =>
      [.schema, .noHeader, .noDescriptions, .baseUrl, .log, .format, .help]
  | list => [.schema, .includeBuiltins, .log, .format, .help]

/-- The option of that name at a level. -/
def Scope.named? (scope : Scope) (name : String) : Option Flag :=
  scope.flags.find? fun flag => flag.name == name

/-- The option of that letter at a level. -/
def Scope.lettered? (scope : Scope) (letter : Char) : Option Flag :=
  scope.flags.find? fun flag => flag.letter? == some letter

/-- The commands. -/
inductive Command
  | print | list | help
  deriving DecidableEq, Repr

/-- The command of that name. -/
def Command.ofName? : String → Option Command
  | "print" => some print
  | "list" => some list
  | "help" => some help
  | _ => none

-- ============================================================ values

/-- What is given at one level. -/
structure Given where
  name : Option String := none
  schema : Option String := none
  base : Option PageBase := none
  level : Option Log.Level := none
  format : Option OutputFormat := none
  noHeader : Bool := false
  noDescriptions : Bool := false
  includeBuiltins : Bool := false
  deriving Repr

/-- The level of that name. -/
def readLevel (text : String) : Except Usage Log.Level :=
  match Log.Level.ofLabel? text with
  | some level => .ok level
  | none => .error .invalidValue

/-- The base that a text is the address of. -/
def readBase (text : String) : Except Usage PageBase :=
  (PageBase.parse text).mapError fun _ => .unreadableValue

namespace Given

/-- Sets an option that has a value. -/
def set (given : Given) (flag : Flag) (value : String) : Except Usage Given :=
  match flag with
  | .schema =>
      if given.schema.isSome then .error .repeated
      else .ok { given with schema := value }
  | .baseUrl =>
      if given.base.isSome then .error .repeated
      else (readBase value).map fun base => { given with base }
  | .log =>
      if given.level.isSome then .error .repeated
      else (readLevel value).map fun level => { given with level }
  | .format =>
      if given.format.isSome then .error .repeated
      else
        match OutputFormat.ofName? value with
        | some format => .ok { given with format }
        | none => .error .invalidValue
  | _ => .ok given

/-- Sets an option that has no value. -/
def turnOn (given : Given) (flag : Flag) : Except Usage Given :=
  match flag with
  | .noHeader =>
      if given.noHeader then .error .repeated
      else .ok { given with noHeader := true }
  | .noDescriptions =>
      if given.noDescriptions then .error .repeated
      else .ok { given with noDescriptions := true }
  | .includeBuiltins =>
      if given.includeBuiltins then .error .repeated
      else .ok { given with includeBuiltins := true }
  | .help => .error .help
  | .version => .error .version
  | _ => .ok given

end Given

-- ============================================================ scanning

/-- An option that is not settled yet, with its value if that is there. -/
structure Pending where
  flag : Flag
  value : Option String

/-- What is known while the arguments of a level are read. -/
structure Scan where
  given : Given := {}
  pending : Option Pending := none
  /-- Whether a double dash was seen, behind which there are no options. -/
  trailing : Bool := false

namespace Scan

/-- Whether the next argument may be the value of an option. -/
def waits (scan : Scan) : Bool :=
  scan.pending.any fun pending => pending.value.isNone

/-- Settles the option that is pending. It needs a value by now. -/
def settle (scan : Scan) : Except Usage Scan :=
  match scan.pending with
  | none => .ok scan
  | some ⟨_, none⟩ => .error .invalidValue
  | some ⟨flag, some value⟩ =>
      (scan.given.set flag value).map fun given =>
        { scan with given, pending := none }

/-- Takes an option with the value that is written with it, if any. -/
def take (scan : Scan) (flag : Flag) (attached : Option String) :
    Except Usage Scan := do
  match flag.takesValue, attached with
  | true, some value =>
      let scan ← scan.settle
      return { scan with given := ← scan.given.set flag value }
  | true, none => return { ← scan.settle with pending := some ⟨flag, none⟩ }
  | false, some _ => .error .unneededValue
  | false, none =>
      let scan ← scan.settle
      return { scan with given := ← scan.given.turnOn flag }

/-- Takes an argument that is no option. Only the print command has one. -/
def takePlain (scope : Scope) (scan : Scan) (argument : String) :
    Except Usage Scan :=
  match scope with
  | .program =>
      if scan.trailing && (Command.ofName? argument).isSome then
        .error .unknownArgument
      else .error .unknownCommand
  | .list => .error .unknownArgument
  | .print =>
      if scan.given.name.isSome then .error .unknownArgument
      else scan.settle.map fun scan =>
        { scan with given := { scan.given with name := argument } }

end Scan

/-- An argument by its form. -/
inductive Shape
  | doubleDash
  | long (name : String) (value : Option String)
  | short (letter : Char) (rest : List Char)
  | plain

/-- The form of an argument. A single dash is no option. -/
def shapeOf (argument : String) : Shape :=
  match argument.toList with
  | ['-', '-'] => .doubleDash
  | '-' :: '-' :: rest =>
      match rest.span (· ≠ '=') with
      | (name, _ :: value) =>
          .long (String.ofList name) (some (String.ofList value))
      | (name, []) => .long (String.ofList name) none
  | '-' :: letter :: rest => .short letter rest
  | _ => .plain

/-- The value that is written with the letter of an option. -/
def attachedValue : List Char → Option String
  | [] => none
  | '=' :: value => some (String.ofList value)
  | value => some (String.ofList value)

/-- Takes one argument of a level. -/
def Scan.step (scope : Scope) (scan : Scan) (argument : String) :
    Except Usage Scan :=
  if scan.trailing then scan.takePlain scope argument
  else
    match shapeOf argument with
    | .doubleDash => .ok { scan with trailing := true }
    | .long name value =>
        match scope.named? name with
        | some flag => scan.take flag value
        | none => .error .unknownArgument
    | .short letter rest =>
        match scope.lettered? letter with
        | some flag =>
            scan.take flag
              (if flag.takesValue then attachedValue rest else none)
        | none => .error .unknownArgument
    | .plain =>
        match scan.pending with
        | some ⟨flag, none⟩ =>
            .ok { scan with pending := some ⟨flag, some argument⟩ }
        | _ => scan.takePlain scope argument

/-- Takes the arguments of the program up to the name of a command. -/
def scanProgram (scan : Scan) :
    List String → Except Usage (Scan × Option (Command × List String))
  | [] => .ok (scan, none)
  | argument :: rest =>
      match (if scan.trailing || scan.waits then none
          else Command.ofName? argument) with
      | some command => .ok (scan, some (command, rest))
      | none =>
          match scan.step .program argument with
          | .ok scan => scanProgram scan rest
          | .error usage => .error usage

/-- Takes the arguments of a command. -/
def scanCommand (scope : Scope) (arguments : List String) :
    Except Usage Given := do
  let scan ← arguments.foldlM (Scan.step scope) {}
  return (← scan.settle).given

-- ============================================================ completing

/-- The log level of a level of arguments: what is given, or what the
environment says. -/
def levelOf (environment : Environment) (given : Given) :
    Except Usage (Option Log.Level) :=
  match given.level, environment "GQLDOC_LOG_LEVEL" with
  | some level, _ => .ok (some level)
  | none, some text => (readLevel text).map some
  | none, none => .ok none

/-- Something that has to be given. -/
def required {α : Type} : Option α → Except Usage α
  | some value => .ok value
  | none => .error .missingArgument

/-- The path of the schema, given or from the environment. -/
def schemaOf (environment : Environment) (given : Given) : Option String :=
  given.schema.orElse fun _ => environment "GQLDOC_SCHEMA"

/-- The base of links, given or from the environment. -/
def baseOf (environment : Environment) (given : Given) :
    Except Usage PageBase :=
  match given.base, environment "GQLDOC_BASE_URL" with
  | some base, _ => .ok base
  | none, some text => readBase text
  | none, none => .ok .standard

/-- What a command is to do, by what is given behind its name. -/
def taskOf (environment : Environment) (scope : Scope) (given : Given) :
    Except Usage Task := do
  match scope with
  | .print =>
      let base ← baseOf environment given
      let name ← required given.name
      return .print name
        { header := !given.noHeader
          descriptions := !given.noDescriptions } base
  | _ => return .list given.includeBuiltins

/-- Reads a command and what is given behind its name. -/
def readCommand (environment : Environment) (scope : Scope)
    (arguments : List String) :
    Except Usage (Given × Option Log.Level × Task × String) := do
  let given ← scanCommand scope arguments
  let level ← levelOf environment given
  let task ← taskOf environment scope given
  let schema ← required (schemaOf environment given)
  return (given, level, task, schema)

/-- Help is asked for one command at most. -/
def readHelp (arguments : List String) : Usage :=
  match arguments.map Command.ofName? with
  | [] | [some _] => .help
  | _ => .unknownCommand

/-- Reads a command line. What is given behind the name of the command
comes before what is given in front of it, and that before what the
environment says. -/
def Invocation.parse (environment : Environment) (arguments : List String) :
    Except Usage Invocation := do
  let finish (scope : Scope) (scan : Scan) (rest : List String) :
      Except Usage Invocation := do
    let (inner, level, task, schema) ← readCommand environment scope rest
    let outer := (← scan.settle).given
    let outerLevel ← levelOf environment outer
    return {
      task, schema
      level := [inner.level, outer.level, level, outerLevel].findSome? id
      format := ([inner.format, outer.format].findSome? id).getD .plain }
  match ← scanProgram {} arguments with
  | (scan, some (.print, rest)) => finish .print scan rest
  | (scan, some (.list, rest)) => finish .list scan rest
  | (_, some (.help, rest)) => .error (readHelp rest)
  | (scan, none) =>
      let given := (← scan.settle).given
      let level ← levelOf environment given
      if level.isNone && given.format.isNone then .error .nothingGiven
      else .error .missingCommand

end SchemaDocs.CommandLine
