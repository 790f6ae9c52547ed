/-
IPv4 addresses.

A host whose last part is a number is an address: one to four numbers,
decimal, octal after a zero, or hexadecimal after `0x`. All but the last
fill one byte each, the last fills the bytes that are left. Written out,
an address is four decimal bytes.
-/
import SchemaDocs.Url.Percent

namespace SchemaDocs.Url.Ipv4

/-- The parts of a text between single characters `mark`; always at least
one. -/
def splitOn (mark : Char) : List Char → List (List Char)
  | [] => [[]]
  | c :: rest =>
      if c = mark then [] :: splitOn mark rest
      else
        match splitOn mark rest with
        | part :: parts => (c :: part) :: parts
        | [] => [[c]]

/-- The number that digits of a base write; no digits write zero. -/
def inBase (base : Nat) (cs : List Char) : Option Nat :=
  cs.foldlM
    (fun n c => (Text.hexDigit? c).bind fun d =>
      if d < base then some (n * base + d) else none) 0

/-- The number that a part of a host writes, if it is one. -/
def number? : List Char → Option Nat
  | [] => none
  | '0' :: 'x' :: digits | '0' :: 'X' :: digits => inBase 16 digits
  | '0' :: d :: digits => inBase 8 (d :: digits)
  | digits => inBase 10 digits

/-- The parts of a host; an empty part at the end is dropped. -/
def parts (host : List Char) : List (List Char) :=
  match (splitOn '.' host).reverse with
  | [] :: rest => rest.reverse
  | all => all.reverse

/-- Whether the last part is a number, or digits that look like one. -/
def endsInNumber (host : List Char) : Bool :=
  match (parts host).getLast? with
  | some part =>
      (!part.isEmpty && part.all Char.isDigit) || (number? part).isSome
  | none => false

/-- The number of values that so many bytes have. -/
def valuesOf : Nat → Nat
  | 0 => 1
  | bytes + 1 => 256 * valuesOf bytes

/-- The value of bytes, first byte highest, with `last` in the places left
of four. -/
def assemble (bytes : List Nat) (last : Nat) : Nat :=
  bytes.foldl (fun value byte => value * 256 + byte) 0
    * valuesOf (4 - bytes.length) + last

/-- The address that a host writes. -/
def read (host : List Char) : Option Nat := do
  let numbers ← (parts host).mapM number?
  let last ← numbers.getLast?
  let bytes := numbers.dropLast
  if numbers.length ≤ 4 ∧ bytes.all (· < 256)
      ∧ last < valuesOf (4 - bytes.length) then
    some (assemble bytes last)
  else none

/-- An address as four decimal bytes. -/
def write (address : Nat) : List Char :=
  let byte (place : Nat) := Nat.toDigits 10 (address / valuesOf place % 256)
  byte 3 ++ '.' :: byte 2 ++ '.' :: byte 1 ++ '.' :: byte 0

end SchemaDocs.Url.Ipv4
