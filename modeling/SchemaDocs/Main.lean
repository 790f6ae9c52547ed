/-
The program.

It takes the command line, the environment and the schema from the system,
and writes the report of the run. A report that cannot be written is a
failed run.
-/
import SchemaDocs.CommandLine.Run

namespace SchemaDocs.CommandLine

/-- The fault of a read that the system refused. -/
def faultOf : IO.Error → ReadFault
  | .noFileOrDirectory _ number reason | .noSuchThing _ number reason
  | .permissionDenied _ number reason | .inappropriateType _ number reason
  | .invalidArgument _ number reason | .resourceExhausted _ number reason =>
      .refused reason number.toNat
  | .otherError number reason | .hardwareFault number reason =>
      .refused reason number.toNat
  | error => .refused (toString error) 5

/-- Reads a stream to its end, behind the bytes read so far. -/
partial def readRest (stream : IO.FS.Stream) (bytes : ByteArray) :
    IO ByteArray := do
  let more ← stream.read 65536
  if more.isEmpty then return bytes else readRest stream (bytes ++ more)

/-- Reads the schema at a path, or from the input. -/
def readSchema (path : String) : IO (Except ReadFault String) := do
  try
    let bytes ← if isInput path then readRest (← IO.getStdin) .empty
      else IO.FS.readBinFile path
    return decode bytes
  catch error =>
    return .error (faultOf error)

/-- The environment of the process. -/
def readEnvironment : IO Environment := do
  let values ←
    Environment.names.mapM fun name => return (name, ← IO.getEnv name)
  return fun name => (values.lookup name).join

/-- Writes a report. -/
def write (report : Report) : IO UInt32 := do
  try
    IO.eprint report.errors
    IO.print report.output
    (← IO.getStdout).flush
    return report.code.toUInt32
  catch _ => return if report.code = 0 then 1 else report.code.toUInt32

end SchemaDocs.CommandLine

open SchemaDocs.CommandLine in
/-- Runs the command line. -/
def main (arguments : List String) : IO UInt32 := do
  let environment ← readEnvironment
  match Invocation.parse environment arguments with
  | .error usage => write usage.report
  | .ok invocation =>
      write (invocation.report environment (← readSchema invocation.schema))
