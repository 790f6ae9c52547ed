/-
Tables over code points.

The tables of the Unicode standard are kept as lines of numbers in base
36, each number after the first giving a distance rather than a place, so
that a table of a thousand ranges stays a page of text. This module reads
such lines into sorted arrays and looks code points up in them by halving.
-/

namespace SchemaDocs.Unicode

-- ============================================================ numbers

/-- The value of a digit in base 36. -/
def digit36 (c : Char) : Nat :=
  if c.toNat < 58 then c.toNat - 48 else c.toNat - 87

/-- The numbers on a line, which single blanks set apart. -/
def numbersOnLine (line : String) : List Nat :=
  let (last, seen) := line.toList.foldl
    (fun (n, seen) c =>
      if c = ' ' then (0, n :: seen) else (n * 36 + digit36 c, seen)) (0, [])
  (last :: seen).reverse

/-- The numbers of a table. -/
def numbers (lines : List String) : List Nat :=
  lines.flatMap numbersOnLine

-- ============================================================ searching

/-- The last row between `low` and `high` whose key is at most `n`, by
halving. -/
def seek {α : Type} (key : α → Nat) (rows : Array α) (n low high : Nat) :
    Option α :=
  if low + 1 < high then
    let middle := (low + high) / 2
    match rows[middle]? with
    | some row =>
        if key row ≤ n then seek key rows n middle high
        else seek key rows n low middle
    | none => none
  else
    match rows[low]? with
    | some row => if key row ≤ n then some row else none
    | none => none
termination_by high - low

-- ============================================================ sets

/-- A set of code points: its ranges, least first. -/
structure Ranges where
  rows : Array (Nat × Nat)

/-- Pairs of numbers: the gap before a range and the distance to its end. -/
def readRanges (place : Nat) : List Nat → List (Nat × Nat)
  | gap :: width :: rest =>
      (place + gap, place + gap + width)
        :: readRanges (place + gap + width + 1) rest
  | _ => []

/-- The set that lines of numbers write. -/
def Ranges.ofLines (lines : List String) : Ranges :=
  ⟨(readRanges 0 (numbers lines)).toArray⟩

/-- Whether a character is in the set. -/
def Ranges.contains (ranges : Ranges) (c : Char) : Bool :=
  match seek Prod.fst ranges.rows c.toNat 0 ranges.rows.size with
  | some (_, last) => c.toNat ≤ last
  | none => false

-- ============================================================ classes

/-- A number for each code point: one for all of a range, zero outside. -/
structure Classes where
  rows : Array (Nat × Nat × Nat)

/-- Triples of numbers: gap, distance to the end, class. -/
def readClasses (place : Nat) : List Nat → List (Nat × Nat × Nat)
  | gap :: width :: value :: rest =>
      (place + gap, place + gap + width, value)
        :: readClasses (place + gap + width + 1) rest
  | _ => []

/-- The classes that lines of numbers write. -/
def Classes.ofLines (lines : List String) : Classes :=
  ⟨(readClasses 0 (numbers lines)).toArray⟩

/-- The class of a character. -/
def Classes.of (classes : Classes) (c : Char) : Nat :=
  match seek Prod.fst classes.rows c.toNat 0 classes.rows.size with
  | some (_, last, value) => if c.toNat ≤ last then value else 0
  | none => 0

-- ============================================================ shifts

/-- A map between code points that moves each run of them by one distance.
A run is every code point or every second one of a stretch. -/
structure Shifts where
  rows : Array (Nat × Nat × Nat × Int)

/-- Triples of numbers: gap, twice the length plus zero or one for the
stride, and the distance with its sign in the last bit. -/
def readShifts (place : Nat) : List Nat → List (Nat × Nat × Nat × Int)
  | gap :: shape :: distance :: rest =>
      let first := place + gap
      let stride := shape % 2 + 1
      let last := first + (shape / 2 - 1) * stride
      let shift : Int :=
        if distance % 2 = 0 then distance / 2
        else -((distance / 2 : Nat) + 1 : Int)
      (first, last, stride, shift) :: readShifts (last + 1) rest
  | _ => []

/-- The map that lines of numbers write. -/
def Shifts.ofLines (lines : List String) : Shifts :=
  ⟨(readShifts 0 (numbers lines)).toArray⟩

/-- What a character is moved to, if it is in a run. -/
def Shifts.find? (shifts : Shifts) (c : Char) : Option Char :=
  match seek Prod.fst shifts.rows c.toNat 0 shifts.rows.size with
  | some (first, last, stride, shift) =>
      if c.toNat ≤ last ∧ (c.toNat - first) % stride = 0 then
        some (Char.ofNat ((c.toNat : Int) + shift).toNat)
      else none
  | none => none

-- ============================================================ expansions

/-- A map from code points to texts. -/
structure Expansions where
  rows : Array (Nat × List Char)

/-- Groups of numbers: gap, length, and as many code points. -/
def readExpansions (place : Nat) (numbers : List Nat) :
    List (Nat × List Char) :=
  match numbers with
  | gap :: length :: rest =>
      (place + gap, (rest.take length).map Char.ofNat)
        :: readExpansions (place + gap + 1) (rest.drop length)
  | _ => []
termination_by numbers.length
decreasing_by simp only [List.length_drop, List.length_cons]; omega

/-- The map that lines of numbers write. -/
def Expansions.ofLines (lines : List String) : Expansions :=
  ⟨(readExpansions 0 (numbers lines)).toArray⟩

/-- The text for a character, if it has one. -/
def Expansions.find? (expansions : Expansions) (c : Char) :
    Option (List Char) :=
  match seek Prod.fst expansions.rows c.toNat 0 expansions.rows.size with
  | some (place, text) => if place = c.toNat then some text else none
  | none => none

end SchemaDocs.Unicode
