/-
Reading JSON text.

The grammar is the standard's: blanks are the space, the tab, the line
feed and the carriage return, and nothing may follow the value. A text
that is not JSON is refused for one of two reasons, and the first fault
in reading order decides: it is malformed, or it ends too early. Arrays
and objects may be nested 127 deep.
-/
import SchemaDocs.Json.Basic
import SchemaDocs.Json.Range
import SchemaDocs.Text.Escape

namespace SchemaDocs.Json

/-- Why a text is not JSON. -/
inductive Fault
  /-- The text breaks the grammar, or holds a number beyond the doubles. -/
  | malformed
  /-- The text ends before its value does. -/
  | truncated
  deriving DecidableEq, Repr

/-- The wording of a fault. It is this library's own; only the reason is
that of other readers of JSON, who also tell the line and the column. -/
def Fault.message : Fault → String
  | .malformed => "the text is not well-formed JSON"
  | .truncated => "the JSON text ends too early"

/-- The text without the blanks it starts with. -/
def skipSpace : List Char → List Char
  | [] => []
  | c :: rest =>
      if c = ' ' ∨ c = '\t' ∨ c = '\n' ∨ c = '\r' then skipSpace rest
      else c :: rest

-- ============================================================ strings

/-- Where four digits are wanted and fewer than four bytes are left, the
text has ended too early, whatever they are. -/
def shortFault (cs : List Char) : Fault :=
  if (String.ofList (cs.take 4)).utf8ByteSize < 4 then .truncated
  else .malformed

/-- Four hexadecimal digits. -/
def hexCode (cs : List Char) : Except Fault (Nat × List Char) :=
  match cs with
  | a :: b :: c :: d :: rest =>
      match Text.hexValue? [a, b, c, d] with
      | some code => .ok (code, rest)
      | none => .error .malformed
  | _ => .error (shortFault cs)

/-- The character of a surrogate pair, of which `high` is read. The other
half is an escape of its own right behind it. -/
def pairRest (high : Nat) (cs : List Char) : Except Fault (Char × List Char) :=
  match cs with
  | '\\' :: 'u' :: rest =>
      match hexCode rest with
      | .error fault => .error fault
      | .ok (low, after) =>
          if Text.isLowSurrogate low then .ok (Text.paired high low, after)
          else .error .malformed
  | [] | ['\\'] => .error .truncated
  | _ => .error .malformed

/-- The character of an escape behind its letter u. -/
def unicodeEscape (cs : List Char) : Except Fault (Char × List Char) :=
  match hexCode cs with
  | .error fault => .error fault
  | .ok (code, rest) =>
      if Text.isHighSurrogate code then pairRest code rest
      else
        match Text.scalar? code with
        | some c => .ok (c, rest)
        | none => .error .malformed

/-- Four digits leave no more text than there was. -/
theorem length_hexCode {cs rest : List Char} {code : Nat}
    (h : hexCode cs = .ok (code, rest)) :
    rest.length ≤ cs.length := by
  fun_cases hexCode cs with
  | case1 a b c d more n hn =>
      simp only [hexCode, hn, Except.ok.injEq, Prod.mk.injEq] at h
      simp only [← h.2, List.length_cons]
      omega
  | case2 a b c d more hn => simp [hexCode, hn] at h
  | case3 hc => simp [hexCode] at h

/-- Nor does the other half of a pair. -/
theorem length_pairRest {cs rest : List Char} {high : Nat} {c : Char}
    (h : pairRest high cs = .ok (c, rest)) : rest.length ≤ cs.length := by
  unfold pairRest at h
  split at h
  · split at h
    · cases h
    · rename_i hl
      have := length_hexCode hl
      split at h
      · simp only [Except.ok.injEq, Prod.mk.injEq] at h
        simp only [← h.2, List.length_cons]
        omega
      · cases h
  all_goals cases h

/-- Nor does an escape. -/
theorem length_unicodeEscape {cs rest : List Char} {c : Char}
    (h : unicodeEscape cs = .ok (c, rest)) : rest.length ≤ cs.length := by
  unfold unicodeEscape at h
  split at h
  · cases h
  · rename_i hc
    have := length_hexCode hc
    split at h
    · exact Nat.le_trans (length_pairRest h) this
    · split at h
      · simp only [Except.ok.injEq, Prod.mk.injEq] at h
        simpa only [← h.2] using this
      · cases h

/-- The rest of a string after its opening quote; `seen` holds the
characters read so far, last first. -/
def stringRest (seen : List Char) (cs : List Char) :
    Except Fault (String × List Char) :=
  match cs with
  | [] => .error .truncated
  | '"' :: rest => .ok (String.ofList seen.reverse, rest)
  | ['\\'] => .error .truncated
  | '\\' :: 'u' :: rest =>
      match h : unicodeEscape rest with
      | .error fault => .error fault
      | .ok (c, after) =>
          have := length_unicodeEscape h
          stringRest (c :: seen) after
  | '\\' :: e :: rest =>
      match Text.escaped? e with
      | some c => stringRest (c :: seen) rest
      | none => .error .malformed
  | c :: rest =>
      if c.toNat < 0x20 then .error .malformed else stringRest (c :: seen) rest
termination_by cs.length

-- ============================================================ numbers

/-- The value of a decimal digit. -/
def digit? (c : Char) : Option Nat :=
  if '0' ≤ c ∧ c ≤ '9' then some (c.toNat - 48) else none

/-- The digits a text starts with, and what follows them. -/
def digits : List Char → List Nat × List Char
  | [] => ([], [])
  | c :: rest =>
      match digit? c with
      | some d => let (ds, after) := digits rest; (d :: ds, after)
      | none => ([], c :: rest)

/-- At least one digit. -/
def someDigits (cs : List Char) : Except Fault (List Nat × List Char) :=
  match digits cs with
  | ([], []) => .error .truncated
  | ([], _) => .error .malformed
  | (ds, rest) => .ok (ds, rest)

/-- The number that digits write. -/
def ofDigits (ds : List Nat) : Nat := ds.foldl (fun n d => n * 10 + d) 0

/-- The whole part: digits without a leading zero, or a zero alone. -/
def wholePart (cs : List Char) : Except Fault (List Nat × List Char) := do
  let (ds, rest) ← someDigits cs
  match ds with
  | 0 :: _ :: _ => .error .malformed
  | _ => .ok (ds, rest)

/-- A point and digits, if there is a point. -/
def fractionPart : List Char → Except Fault (List Nat × List Char)
  | '.' :: rest => someDigits rest
  | rest => .ok ([], rest)

/-- An `e`, perhaps a sign, and digits, if there is an `e`. -/
def exponentPart : List Char → Except Fault (Int × List Char)
  | e :: rest =>
      if e = 'e' ∨ e = 'E' then
        match rest with
        | '-' :: rest => do
            let (ds, after) ← someDigits rest
            .ok (-(ofDigits ds : Int), after)
        | '+' :: rest => do
            let (ds, after) ← someDigits rest
            .ok ((ofDigits ds : Int), after)
        | _ => do
            let (ds, after) ← someDigits rest
            .ok ((ofDigits ds : Int), after)
      else .ok (0, e :: rest)
  | [] => .ok (0, [])

/-- A number without its sign. -/
def unsigned (negative : Bool) (cs : List Char) :
    Except Fault (Json × List Char) := do
  let (whole, rest) ← wholePart cs
  let (fraction, rest) ← fractionPart rest
  let (exponent, rest) ← exponentPart rest
  if isInfinite whole fraction exponent then .error .malformed
  else
    let magnitude : Int := ofDigits (whole ++ fraction)
    .ok (number (if negative then -magnitude else magnitude)
      (exponent - fraction.length), rest)

-- ============================================================ values

/-- The rest of a keyword, letter by letter. -/
def keyword (value : Json) :
    List Char → List Char → Except Fault (Json × List Char)
  | [], rest => .ok (value, rest)
  | _ :: _, [] => .error .truncated
  | k :: ks, c :: rest =>
      if k = c then keyword value ks rest else .error .malformed

/-- What reads something from the front of a text. -/
abbrev Reader (α : Type) := List Char → Except Fault (α × List Char)

/-- The items of an array after its first bracket and up to its last,
from the first item on; `item` reads one, and `seen` holds those read so
far, last first. There is at most one item for each character of `bound`. -/
def arrayRest (item : Reader Json) (bound : List Char) (seen : List Json)
    (cs : List Char) :
    Except Fault (List Json × List Char) :=
  match bound with
  | [] => .error .malformed
  | _ :: bound =>
      match item cs with
      | .error fault => .error fault
      | .ok (value, rest) =>
          match skipSpace rest with
          | [] => .error .truncated
          | ']' :: after => .ok ((value :: seen).reverse, after)
          | ',' :: more =>
              match skipSpace more with
              | [] => .error .truncated
              | ']' :: _ => .error .malformed
              | next => arrayRest item bound (value :: seen) next
          | _ => .error .malformed

/-- An object's key, the colon after it, and its value. -/
def member (item : Reader Json) : Reader (String × Json)
  | '"' :: rest => do
      let (key, rest) ← stringRest [] rest
      match skipSpace rest with
      | [] => .error .truncated
      | ':' :: rest => do
          let (value, rest) ← item rest
          .ok ((key, value), rest)
      | _ => .error .malformed
  | _ => .error .malformed

/-- The members of an object from the first on, as `arrayRest` for items. -/
def objectRest (item : Reader Json) (bound : List Char)
    (seen : List (String × Json))
    (cs : List Char) : Except Fault (List (String × Json) × List Char) :=
  match bound with
  | [] => .error .malformed
  | _ :: bound =>
      match member item cs with
      | .error fault => .error fault
      | .ok (entry, rest) =>
          match skipSpace rest with
          | [] => .error .truncated
          | '}' :: after => .ok ((entry :: seen).reverse, after)
          | ',' :: more =>
              match skipSpace more with
              | [] => .error .truncated
              | next => objectRest item bound (entry :: seen) next
          | _ => .error .malformed

/-- A value at most `depth - 1` arrays and objects deep. -/
def value : Nat → List Char → Except Fault (Json × List Char)
  | 0, _ => .error .malformed
  | depth + 1, cs =>
      match skipSpace cs with
      | [] => .error .truncated
      | 'n' :: rest => keyword null ['u', 'l', 'l'] rest
      | 't' :: rest => keyword (bool true) ['r', 'u', 'e'] rest
      | 'f' :: rest => keyword (bool false) ['a', 'l', 's', 'e'] rest
      | '"' :: rest =>
          (stringRest [] rest).map fun (text, after) => (string text, after)
      | '-' :: rest => unsigned true rest
      | '[' :: rest =>
          if depth = 0 then .error .malformed
          else
            match skipSpace rest with
            | [] => .error .truncated
            | ']' :: after => .ok (array [], after)
            | first =>
                (arrayRest (value depth) first [] first).map
                  fun (items, after) => (array items, after)
      | '{' :: rest =>
          if depth = 0 then .error .malformed
          else
            match skipSpace rest with
            | [] => .error .truncated
            | '}' :: after => .ok (object [], after)
            | first =>
                (objectRest (value depth) first [] first).map
                  fun (members, after) => (object members, after)
      | c :: rest =>
          if (digit? c).isSome then unsigned false (c :: rest)
          else .error .malformed

/-- Reads a text that is one JSON value. -/
def parse (text : String) : Except Fault Json := do
  let (result, rest) ← value 128 text.toList
  match skipSpace rest with
  | [] => .ok result
  | _ => .error .malformed

end SchemaDocs.Json
