/-
Punycode.

A label with characters beyond ASCII is carried in ASCII: first its ASCII
characters and a hyphen, then a series of whole numbers. Each number says
how many insertions to pass over before the next one, where an insertion
is a code point and a place, counted by place within a code point and in
ascending order of code points. A number is written in base 36, least
digit first, and ends at a digit below a threshold; the thresholds adapt
to the numbers written before.
-/

namespace SchemaDocs.Url.Punycode

-- ============================================================ digits

/-- A digit of base 36: a letter, then a numeral. -/
def digitChar (d : Nat) : Char :=
  if d < 26 then Char.ofNat (97 + d) else Char.ofNat (22 + d)

/-- The value of a digit, in either case. -/
def digitValue? (c : Char) : Option Nat :=
  if 'a' ≤ c ∧ c ≤ 'z' then some (c.toNat - 97)
  else if 'A' ≤ c ∧ c ≤ 'Z' then some (c.toNat - 65)
  else if '0' ≤ c ∧ c ≤ '9' then some (c.toNat - 22)
  else none

/-- The threshold of the digit at a place; places count by 36 from 36 on. -/
def threshold (bias place : Nat) : Nat := min 26 (max 1 (place - bias))

theorem threshold_pos (bias place : Nat) : 1 ≤ threshold bias place := by
  unfold threshold; omega

theorem threshold_le (bias place : Nat) : threshold bias place ≤ 26 := by
  unfold threshold; omega

/-- Divides by 35 until the number is at most 455, and counts 36 each time. -/
def halvings (delta : Nat) : Nat × Nat :=
  if 455 < delta then
    let (rest, count) := halvings (delta / 35)
    (rest, count + 36)
  else (delta, 0)

/-- The bias after the number `delta`, written as the first one or a later
one, with `points` code points placed by then. -/
def adapt (delta points : Nat) (first : Bool) : Nat :=
  let damped := if first then delta / 700 else delta / 2
  let (rest, count) := halvings (damped + damped / points)
  count + 36 * rest / (rest + 38)

-- ============================================================ writing

/-- A number in variable-length digits from a place on. -/
def writeNumber (bias place n : Nat) : List Char :=
  let t := threshold bias place
  if n < t then [digitChar n]
  else digitChar (t + (n - t) % (36 - t))
    :: writeNumber bias (place + 36) ((n - t) / (36 - t))
termination_by n
decreasing_by
  have := threshold_pos bias place
  have := threshold_le bias place
  have :=
    Nat.div_le_self (n - threshold bias place) (36 - threshold bias place)
  omega

/-- Where a writer stands: the digits so far, the insertions passed over
since the last one, the bias, and the number of characters placed. -/
structure Writer where
  digits : List Char
  skipped : Nat
  bias : Nat
  placed : Nat

/-- Goes past one character while the code point `point` is being placed. -/
def Writer.visit (basics point : Nat) (w : Writer) (c : Char) : Writer :=
  if c.toNat < point then { w with skipped := w.skipped + 1 }
  else if c.toNat = point then
    { digits := w.digits ++ writeNumber w.bias 36 w.skipped
      skipped := 0
      bias := adapt w.skipped (w.placed + 1) (w.placed = basics)
      placed := w.placed + 1 }
  else w

/-- Places every occurrence of each code point; `next` is the least one
that may still come. -/
def Writer.place (label : List Char) (basics : Nat) :
    List Nat → Nat → Writer → Writer
  | [], _, w => w
  | point :: points, next, w =>
      let start :=
        { w with skipped := w.skipped + (point - next) * (w.placed + 1) }
      let done := label.foldl (Writer.visit basics point) start
      Writer.place label basics points (point + 1)
        { done with skipped := done.skipped + 1 }

/-- The code points of a label beyond ASCII, ascending, each once. -/
def points (label : List Char) : List Nat :=
  ((label.filter fun c => 128 ≤ c.toNat).map Char.toNat).mergeSort.eraseDups

/-- The label in ASCII. -/
def encode (label : List Char) : List Char :=
  let basic := label.filter fun c => c.toNat < 128
  let start : Writer := ⟨[], 0, 72, basic.length⟩
  let last := Writer.place label basic.length (points label) 128 start
  basic ++ (if basic.isEmpty then [] else ['-']) ++ last.digits

-- ============================================================ reading

/-- Reads one number; `weight` is the worth of a digit at this place. -/
def readNumber (bias : Nat) (place weight sum : Nat) :
    List Char → Option (Nat × List Char)
  | [] => none
  | c :: rest =>
      match digitValue? c with
      | none => none
      | some d =>
          let t := threshold bias place
          if d < t then some (sum + d * weight, rest)
          else
            readNumber bias (place + 36) (weight * (36 - t)) (sum + d * weight)
              rest

/-- A number takes up at least one character. -/
theorem readNumber_length {bias place weight sum : Nat} {cs rest : List Char}
    {n : Nat}
    (h : readNumber bias place weight sum cs = some (n, rest)) :
    rest.length < cs.length := by
  induction cs generalizing place weight sum with
  | nil => simp [readNumber] at h
  | cons c cs ih =>
      simp only [readNumber] at h
      split at h
      · exact nomatch h
      · split at h
        · simp only [Option.some.injEq, Prod.mk.injEq] at h
          simp [h.2]
        · have := ih h
          simp only [List.length_cons]
          omega

/-- Carries out the insertions that digits write. `point` and `place` are
where the next number counts from. -/
def insertAll (label : List Char) (point place bias : Nat) (first : Bool)
    (cs : List Char) :
    Option (List Char) :=
  if cs.isEmpty then some label
  else
    match h : readNumber bias 36 1 0 cs with
    | none => none
    | some (n, rest) =>
        have := readNumber_length h
        let size := label.length + 1
        let next := point + (place + n) / size
        let spot := (place + n) % size
        if next.isValidChar then
          insertAll (label.insertIdx spot (Char.ofNat next)) next (spot + 1)
            (adapt n size first) false rest
        else none
termination_by cs.length

/-- The label that a text in ASCII carries, if it carries one. -/
def decode (cs : List Char) : Option (List Char) :=
  let tail := (cs.reverse.takeWhile (· ≠ '-')).reverse
  let head := cs.take (cs.length - tail.length - 1)
  if head.isEmpty then insertAll [] 128 0 72 true cs
  else if head.all fun c =>
    c.toNat < 128 then insertAll head 128 0 72 true tail
  else none

end SchemaDocs.Url.Punycode
