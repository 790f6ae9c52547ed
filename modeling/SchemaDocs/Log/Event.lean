/-
Log events.

What the program does along the way is told by events. Each has a level,
the part of the program that it comes from, a message and fields.
-/
import SchemaDocs.Page.Base
import SchemaDocs.Program
import SchemaDocs.Schema.Format
import SchemaDocs.Text.Quoted

namespace SchemaDocs.Log

-- ============================================================ levels

/-- How much an event matters, most first. -/
inductive Level
  | error | warn | info | debug | trace
  deriving DecidableEq, Repr

namespace Level

/-- Every level, most urgent first. -/
def all : List Level := [error, warn, info, debug, trace]

/-- How many levels are at least as urgent. -/
def rank : Level → Nat
  | error => 1
  | warn => 2
  | info => 3
  | debug => 4
  | trace => 5

/-- The name of a level. -/
def label : Level → String
  | error => "ERROR"
  | warn => "WARN"
  | info => "INFO"
  | debug => "DEBUG"
  | trace => "TRACE"

/-- The level of that name, in letters of either case. -/
def ofLabel? (text : String) : Option Level :=
  all.find? fun level => level.label.toList == text.toList.map Char.toUpper

end Level

-- ============================================================ events

/-- Something that happened. -/
inductive Event
  | starting
  | parsing (schema : String) (format : SchemaFormat)
  | readEntries (count : Nat)
  | faulty (schema : String)
  | loaded (schema : String) (types : Nat)
  | rendering (name : String) (base : PageBase)
  | listing (total : Nat)
  | untyped (owner field : String)
  | unlinked (name : String) (matching : Nat)
  deriving DecidableEq, Repr

namespace Event

/-- The level of an event. -/
def level : Event → Level
  | faulty _ => .warn
  | loaded _ _ => .info
  | _ => .debug

/-- The part of the program that an event comes from. -/
def source : Event → String
  | starting => "gqldoc"
  | parsing _ _ | loaded _ _ => "gqldoc::options::schema"
  | rendering _ _ => "gqldoc::command::print"
  | listing _ => "gqldoc::command::list"
  | readEntries _ => "gqldoc_render::introspection"
  | faulty _ => "gqldoc_render::sdl"
  | untyped _ _ => "gqldoc_render::stringify"
  | unlinked _ _ => "gqldoc_render::link"

/-- The message of an event. -/
def message : Event → String
  | starting => "starting"
  | parsing _ _ => "parsing schema"
  | readEntries _ => "loaded introspection types"
  | faulty _ => "schema has errors"
  | loaded _ _ => "loaded schema"
  | rendering _ _ => "rendering type"
  | listing _ => "listing types"
  | untyped _ _ => "field type has no name"
  | unlinked _ _ => "not linking type"

/-- The fields of an event, as they are shown. -/
def fields : Event → List (String × String)
  | starting =>
      [("name", Text.quoted Program.name),
        ("version", Text.quoted Program.version)]
  | parsing schema format => [("schema", schema), ("format", format.label)]
  | readEntries count => [("count", toString count)]
  | faulty schema => [("path", Text.quoted schema)]
  | loaded schema types => [("schema", schema), ("types", toString types)]
  | rendering name base => [("type_name", name), ("base_url", base.text)]
  | listing total => [("total", toString total)]
  | untyped owner field =>
      [("parent_name", Text.quoted owner), ("field", field)]
  | unlinked name matching =>
      [("type_name", Text.quoted name), ("matches", toString matching)]

end Event

-- ============================================================ lines

/-- What puts the name of a level in its colour. -/
def Level.colour : Level → String
  | error => "\x1b[31m"
  | warn => "\x1b[33m"
  | info => "\x1b[32m"
  | debug => "\x1b[34m"
  | trace => "\x1b[35m"

/-- A level's name at the right of five columns. -/
def Level.column (level : Level) : String :=
  "".pushn ' ' (5 - level.label.length) ++ level.label

/-- A field as it is shown, with or without colours. -/
def fieldText (coloured : Bool) (field : String × String) : String :=
  if coloured then "\x1b[3m" ++ field.1 ++ "\x1b[0m\x1b[2m=\x1b[0m" ++ field.2
  else field.1 ++ "=" ++ field.2

/-- The line of an event, with its line break. -/
def Event.line (coloured : Bool) (event : Event) : String :=
  let level :=
    if coloured then event.level.colour ++ event.level.column ++ "\x1b[0m"
    else event.level.column
  " ".intercalate
    (level :: event.message :: event.fields.map (fieldText coloured)) ++ "\n"

end SchemaDocs.Log
