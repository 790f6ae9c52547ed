/-
IPv6 addresses.

An address is eight pieces of sixteen bits, in hexadecimal between
colons. Once, two colons in a row may stand for one or more pieces that
are zero, and the last two pieces may be written as four decimal bytes.
Written out, an address has lower-case digits, and two colons for the
first of its longest runs of at least two zero pieces.
-/
import SchemaDocs.Url.Ipv4

namespace SchemaDocs.Url.Ipv6

open Ipv4 (splitOn inBase)

-- ============================================================ reading

/-- One piece: one to four hexadecimal digits. -/
def piece? (cs : List Char) : Option Nat :=
  if cs.isEmpty ∨ 4 < cs.length then none else inBase 16 cs

/-- A decimal byte, without a leading zero. -/
def byte? (cs : List Char) : Option Nat :=
  match cs with
  | [] => none
  | '0' :: _ :: _ => none
  | _ => (inBase 10 cs).filter (· < 256)

/-- Two pieces written as four decimal bytes. -/
def bytes? (cs : List Char) : Option (List Nat) := do
  match ← (splitOn '.' cs).mapM byte? with
  | [a, b, c, d] => some [a * 256 + b, c * 256 + d]
  | _ => none

/-- The pieces between colons; the last two may be bytes where `atEnd`. -/
def pieces? (atEnd : Bool) : List (List Char) → Option (List Nat)
  | [] => some []
  | [last] =>
      if atEnd && last.contains '.' then bytes? last
      else (piece? last).map ([·])
  | first :: rest => do
      let piece ← piece? first
      let pieces ← pieces? atEnd rest
      some (piece :: pieces)

/-- The pieces of one side of two colons, or of a whole address. -/
def side? (atEnd : Bool) (cs : List Char) : Option (List Nat) :=
  if cs.isEmpty then some [] else pieces? atEnd (splitOn ':' cs)

/-- The text before and after the first two colons in a row. -/
def splitColons : List Char → Option (List Char × List Char)
  | ':' :: ':' :: rest => some ([], rest)
  | c :: rest =>
      (splitColons rest).map fun (before, after) => (c :: before, after)
  | [] => none

/-- The eight pieces that a text writes. -/
def read (cs : List Char) : Option (List Nat) :=
  match splitColons cs with
  | some (before, after) => do
      let left ← side? false before
      let right ← side? true after
      if left.length + right.length < 8 then
        some (left ++ List.replicate (8 - left.length - right.length) 0
          ++ right)
      else none
  | none => (side? true cs).filter (·.length = 8)

-- ============================================================ writing

/-- The number of zeros that pieces start with. -/
def zeros (pieces : List Nat) : Nat := (pieces.takeWhile (· = 0)).length

/-- The place and the length of the first longest run of zeros, where the
pieces start at `place` and `best` was the longest run before. -/
def longestRun (place : Nat) (best : Nat × Nat) : List Nat → Nat × Nat
  | [] => best
  | piece :: rest =>
      let run := zeros (piece :: rest)
      longestRun (place + 1) (if best.2 < run then (place, run) else best) rest

/-- A piece in hexadecimal digits. -/
def writePiece (piece : Nat) : List Char := Nat.toDigits 16 piece

/-- Pieces with single colons between them. -/
def writePieces (pieces : List Nat) : List Char :=
  [':'].intercalate (pieces.map writePiece)

/-- An address as text. -/
def write (pieces : List Nat) : List Char :=
  let (place, run) := longestRun 0 (0, 1) pieces
  if run < 2 then writePieces pieces
  else writePieces (pieces.take place)
    ++ ':' :: ':' :: writePieces (pieces.drop (place + run))

end SchemaDocs.Url.Ipv6
