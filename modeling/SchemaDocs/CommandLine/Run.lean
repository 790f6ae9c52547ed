/-
Running a command line.

A run reads the schema, does its task and reports the result. Log lines
are written to the error output before the result.
-/
import SchemaDocs.CommandLine.Arguments
import SchemaDocs.CommandLine.Output
import SchemaDocs.Log.Filter
import SchemaDocs.Similarity

namespace SchemaDocs.CommandLine

open Log (Event)

-- ============================================================ events

/-- The event of a name that is not linked. -/
def unlinked (types : List TypeDef) (name : String) : List Event :=
  let matching := (typesNamed types name).length
  if matching = 1 then [] else [.unlinked name matching]

/-- The events of a field in the table of `owner`. -/
def fieldEvents (types : List TypeDef) (owner : String) (field : Field) :
    List Event :=
  (if field.type.target.isNone then [.untyped owner field.name] else [])
    ++ unlinked types (Table.shownType field)

/-- The events of a type's block. Only tables of fields have links. -/
def blockEvents (types : List TypeDef) (type : TypeDef) : List Event :=
  match type.body with
  | .object fields | .inputObject fields | .interface fields =>
      unlinked types type.name ++ fields.flatMap (fieldEvents types type.name)
  | _ => []

/-- The events of a page. -/
def pageEvents (types : List TypeDef) (name : String) : List Event :=
  (typesNamed types name).flatMap (blockEvents types)

-- ============================================================ running

/-- The types of a schema that was read from `path`, with the events of
reading it. -/
def loadSchema (path text : String) :
    List Event × Except Failure (List TypeDef) :=
  let format := SchemaFormat.ofPath path
  match format with
  | .introspection =>
      match Introspection.load text with
      | .ok types =>
          ([.parsing path format, .readEntries types.length,
            .loaded path types.length], .ok types)
      | .error error => ([.parsing path format], .error (.introspection error))
  | .sdl =>
      let outcome := Sdl.read text
      let faults : List Event := if outcome.sound then [] else [.faulty path]
      match outcome.result with
      | .ok types =>
          (.parsing path format :: faults ++ [.loaded path types.length],
            .ok types)
      | .error error => (.parsing path format :: faults, .error (.sdl error))

/-- Apart from its events, loading is what the format of the path says. -/
theorem loadSchema_snd (path text : String) :
    (loadSchema path text).2
      = match SchemaFormat.ofPath path with
        | .introspection => (Introspection.load text).mapError .introspection
        | .sdl => (Sdl.load text).mapError .sdl := by
  unfold loadSchema Sdl.load
  cases SchemaFormat.ofPath path with
  | introspection => cases Introspection.load text <;> rfl
  | sdl =>
      dsimp only
      cases (Sdl.read text).result <;> rfl

/-- Does a task with the types of the schema at `path`. -/
def Task.run (task : Task) (path : String) (types : List TypeDef) :
    List Event × Except Failure Output :=
  match task with
  | .print name options base =>
      (.rendering name base :: pageEvents types name,
        match Page.render types base options name with
        | .ok markdown => .ok (.page name markdown)
        | .error missing =>
            .error (.missing missing path (Similarity.closest name types)))
  | .list withBuiltins =>
      let overview := Overview.ofTypes types withBuiltins
      ([.listing overview.total], .ok (.listing overview))

namespace Invocation

/-- Runs an invocation on what reading the schema gave. -/
def run (invocation : Invocation) (read : Except ReadFault String) :
    List Event × Except Failure Output :=
  match read with
  | .error fault => ([.starting], .error (.unreadable invocation.schema fault))
  | .ok text =>
      match loadSchema invocation.schema text with
      | (events, .error failure) => (.starting :: events, .error failure)
      | (events, .ok types) =>
          let (later, result) := invocation.task.run invocation.schema types
          (.starting :: (events ++ later), result)

/-- Apart from its events, a run reads the schema, loads its types and does
the task, as far as it gets. -/
theorem run_snd (invocation : Invocation) (read : Except ReadFault String) :
    (invocation.run read).2
      = (read.mapError (.unreadable invocation.schema)).bind fun text =>
        (loadSchema invocation.schema text).2.bind fun types =>
        (invocation.task.run invocation.schema types).2 := by
  unfold run
  cases read with
  | error fault => rfl
  | ok text =>
      show _ = (loadSchema invocation.schema text).2.bind _
      dsimp only
      rcases loadSchema invocation.schema text with ⟨events, loaded⟩
      cases loaded <;> rfl

/-- The filter of an invocation's log, if anything is logged. A level that
is asked for wins. -/
def filter? (environment : Environment) (invocation : Invocation) :
    Option Log.Filter :=
  match invocation.level with
  | some level => some (.upTo level)
  | none => (environment "GQLDOC_LOG").bind Log.Filter.parse

/-- The log of a run. -/
def log (environment : Environment) (invocation : Invocation)
    (events : List Event) : String :=
  match invocation.filter? environment with
  | some filter =>
      String.join
        ((events.filter filter.shows).map (Event.line environment.coloursLog))
  | none => ""

/-- Runs an invocation on what reading the schema gave, and reports it. -/
def report (environment : Environment) (invocation : Invocation)
    (read : Except ReadFault String) : Report :=
  let (events, result) := invocation.run read
  let coloured := environment.coloursTexts
  let report :=
    match invocation.format with
    | .plain => plainReport coloured result
    | .json => jsonReport coloured result
  { report with errors := invocation.log environment events ++ report.errors }

end Invocation

/-- The report of a command line that is not run. -/
def Usage.report (usage : Usage) : Report :=
  if usage.code = 0 then ⟨0, usage.text, ""⟩ else ⟨usage.code, "", usage.text⟩

end SchemaDocs.CommandLine
