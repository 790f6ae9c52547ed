/-
Splitting a document into tokens.

Blanks, commas, byte order marks and comments only separate. What is not
a token is dropped, and reading goes on behind it: a character that means
nothing, a number or a text that is spoilt. A text that is never closed
takes the rest of the document with it.
-/
import SchemaDocs.Sdl.Text
import SchemaDocs.Sdl.Token

namespace SchemaDocs.Sdl

-- ============================================================ lexemes

/-- What stands at one place of a document. -/
inductive Lexeme
  | separator
  | token (token : Token)
  | bad
  deriving DecidableEq, Repr

/-- The characters that only separate. -/
def separates (c : Char) : Bool :=
  c = ' ' || c = '\t' || c = '\n' || c = '\r' || c = ',' || c = '\ufeff'

/-- Dropping a run never lengthens. -/
theorem length_dropWhile_le {α : Type} (p : α → Bool) (xs : List α) :
    (xs.dropWhile p).length ≤ xs.length :=
  (List.dropWhile_suffix p).sublist.length_le

-- ============================================================ numbers

/-- The stages of a number: behind its minus sign, behind a leading zero,
in its whole part, behind its point, in its fraction, behind the letter of
its exponent, behind the exponent's sign, and in the exponent. -/
inductive NumberStage
  | minus | zero | whole | point | fraction | letter | sign | exponent

/-- What a character does to a number: it goes on, it ends before the
character, or it is spoilt by it. -/
inductive NumberStep
  | next (stage : NumberStage)
  | ends
  | spoilt

/-- The step of a number at one of its characters. A complete number may
not run into a name, a second point, or a digit behind a leading zero. -/
def NumberStage.step (stage : NumberStage) (c : Char) : NumberStep :=
  let digit := c.isDigit
  let letter := c = 'e' || c = 'E'
  match stage with
  | minus =>
      if c = '0' then .next zero else if digit then .next whole else .spoilt
  | zero =>
      if c = '.' then .next point else if letter then .next .letter
      else if digit || startsName c then .spoilt else .ends
  | whole =>
      if digit then .next whole
      else if c = '.' then .next point
      else if letter then .next .letter
      else if startsName c then .spoilt
      else .ends
  | point => if digit then .next fraction else .spoilt
  | fraction =>
      if digit then .next fraction else if letter then .next .letter
      else if c = '.' || startsName c then .spoilt else .ends
  | .letter =>
      if digit then .next exponent
      else if c = '+' || c = '-' then .next sign
      else .spoilt
  | sign => if digit then .next exponent else .spoilt
  | exponent =>
      if digit then .next exponent
      else if c = '.' || startsName c then .spoilt
      else .ends

/-- Whether a number may end with the document. -/
def NumberStage.complete : NumberStage → Bool
  | zero | whole | fraction | exponent => true
  | _ => false

/-- The rest of a number. The character that spoils a number goes with it. -/
def scanNumber (stage : NumberStage) : List Char → Lexeme × List Char
  | [] => (if stage.complete then .token .number else .bad, [])
  | c :: rest =>
      match stage.step c with
      | .next stage => scanNumber stage rest
      | .ends => (.token .number, c :: rest)
      | .spoilt => (.bad, rest)

/-- A number takes characters from the front. -/
theorem length_scanNumber (stage : NumberStage) (cs : List Char) :
    (scanNumber stage cs).2.length ≤ cs.length := by
  induction cs generalizing stage with
  | nil => simp [scanNumber]
  | cons c rest ih =>
      simp only [scanNumber]
      split
      · exact Nat.le_succ_of_le (ih _)
      · exact Nat.le_refl _
      · exact Nat.le_succ _

-- ============================================================ scanning

/-- The text behind an opening quote. -/
def scanText (cs : List Char) : Lexeme × List Char :=
  match cs with
  | '"' :: '"' :: rest =>
      match splitBlock rest with
      | some (raw, after) =>
          (.token (.text (String.ofList (dedent raw))), after)
      | none => (.bad, [])
  | _ =>
      match splitQuoted cs with
      | some (raw, after) =>
          match unquote raw with
          | some value => (.token (.text (String.ofList value)), after)
          | none => (.bad, after)
      | none => (.bad, [])

/-- A text takes characters from the front. -/
theorem length_scanText (cs : List Char) :
    (scanText cs).2.length ≤ cs.length := by
  unfold scanText
  split
  · split
    · rename_i h
      have := length_splitBlock h
      simp only [List.length_cons]
      omega
    · simp
  · split
    · rename_i h
      have := length_splitQuoted h
      split <;> simp only <;> omega
    · simp

/-- The lexeme that `c` opens, and what follows it. -/
def scan (c : Char) (rest : List Char) : Lexeme × List Char :=
  if separates c then (.separator, rest)
  else if c = '#' then
    (.separator, rest.dropWhile fun c => c ≠ '\n' && c ≠ '\r')
  else if c = '"' then scanText rest
  else if h : startsName c = true then
    (.token (.name (Name.ofStart c rest h)), rest.dropWhile continuesName)
  else if c = '-' then scanNumber .minus rest
  else if c = '0' then scanNumber .zero rest
  else if c.isDigit then scanNumber .whole rest
  else if c = '.' then
    match rest with
    | '.' :: '.' :: rest => (.token (.mark .spread), rest)
    | '.' :: rest => (.bad, rest)
    | _ => (.bad, rest)
  else
    match Mark.ofChar? c with
    | some mark => (.token (.mark mark), rest)
    | none => (.bad, rest)

/-- A lexeme takes characters from the front. -/
theorem length_scan (c : Char) (rest : List Char) :
    (scan c rest).2.length ≤ rest.length := by
  fun_cases scan c rest with
  | case2 => exact length_dropWhile_le _ _
  | case3 => exact length_scanText _
  | case4 => exact length_dropWhile_le _ _
  | case5 | case6 | case7 => exact length_scanNumber _ _
  | _ => simp only [List.length_cons]; omega

/-- The tokens of a document, and whether there is nothing else in it. -/
def tokens : List Char → List Token × Bool
  | [] => ([], true)
  | c :: rest =>
      match h : scan c rest with
      | (lexeme, after) =>
          have : after.length ≤ rest.length :=
            by simpa [h] using length_scan c rest
          let (found, sound) := tokens after
          match lexeme with
          | .separator => (found, sound)
          | .token token => (token :: found, sound)
          | .bad => (found, false)
termination_by cs => cs.length

end SchemaDocs.Sdl
