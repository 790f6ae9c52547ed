/-
Reading the schema.

A schema is read from a file or from the input. What can go wrong is told
in the words of the operating system.
-/

namespace SchemaDocs.CommandLine

/-- Whether a path stands for the input. -/
def isInput (path : String) : Bool := path == "-"

-- ============================================================ faults

/-- Why a schema cannot be read. -/
inductive ReadFault
  /-- The operating system refuses, for the reason of that number. -/
  | refused (reason : String) (number : Nat)
  /-- No path may be written so. -/
  | notAPath
  /-- What is there is not UTF-8. -/
  | notText
  deriving DecidableEq, Repr

namespace ReadFault

/-- The wording of a fault. -/
def message : ReadFault → String
  | refused reason number => reason ++ " (os error " ++ toString number ++ ")"
  | notAPath => "file name contained an unexpected NUL byte"
  | notText => "stream did not contain valid UTF-8"

end ReadFault

/-- The text that bytes write. -/
def decode (bytes : ByteArray) : Except ReadFault String :=
  match String.fromUTF8? bytes with
  | some text => .ok text
  | none => .error .notText

end SchemaDocs.CommandLine
