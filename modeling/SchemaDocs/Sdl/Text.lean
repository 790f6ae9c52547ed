/-
Texts of the schema language.

A text stands between quotes on one line, with escapes, or as a block
between triple quotes. The lines of a block lose the indentation that all
of them share, and blank lines at both ends are dropped, so that a block
may be indented with what surrounds it.
-/
import SchemaDocs.Text.Escape

namespace SchemaDocs.Sdl

-- ============================================================ quotes

/-- The characters up to the quote that closes a text, and what follows
it. A character behind a backslash closes nothing. -/
def splitQuoted : List Char → Option (List Char × List Char)
  | [] => none
  | ['\\'] => none
  | '\\' :: c :: rest =>
      (splitQuoted rest).map fun (raw, after) => ('\\' :: c :: raw, after)
  | c :: rest =>
      if c = '"' then some ([], rest)
      else (splitQuoted rest).map fun (raw, after) => (c :: raw, after)

/-- What follows a quoted text is shorter. -/
theorem length_splitQuoted {cs raw after : List Char}
    (h : splitQuoted cs = some (raw, after)) :
    after.length < cs.length := by
  fun_induction splitQuoted cs generalizing raw with
  | case1 => simp at h
  | case2 => simp at h
  | case3 c rest ih =>
      obtain ⟨⟨raw', after'⟩, h', he⟩ := Option.map_eq_some_iff.1 h
      cases he
      have := ih h'
      simp only [List.length_cons]
      omega
  | case4 => simp_all
  | case5 c rest _ _ _ ih =>
      obtain ⟨⟨raw', after'⟩, h', he⟩ := Option.map_eq_some_iff.1 h
      cases he
      have := ih h'
      simp only [List.length_cons]
      omega

/-- The code of a letter u escape, and what follows it: four digits, or
any number of them in braces. -/
def escapeCode? (cs : List Char) : Option (Nat × List Char) :=
  match cs with
  | '\x7b' :: rest =>
      match rest.dropWhile (· ≠ '\x7d'),
          Text.hexValue? (rest.takeWhile (· ≠ '\x7d')) with
      | '\x7d' :: after, some code => some (code, after)
      | _, _ => none
  | a :: b :: c :: d :: rest =>
      match Text.hexValue? [a, b, c, d] with
      | some code => some (code, rest)
      | none => none
  | _ => none

/-- The character of a surrogate pair, of which `high` is read. The other
half is an escape of its own right behind it. -/
def pairRest? (high : Nat) (cs : List Char) : Option (Char × List Char) :=
  match cs with
  | '\\' :: 'u' :: rest =>
      match escapeCode? rest with
      | some (low, after) =>
          if Text.isLowSurrogate low then some (Text.paired high low, after)
          else none
      | none => none
  | _ => none

/-- The character of a letter u escape, and what follows it. -/
def escapedScalar? (cs : List Char) : Option (Char × List Char) :=
  match escapeCode? cs with
  | none => none
  | some (code, rest) =>
      if Text.isHighSurrogate code then pairRest? code rest
      else
        match Text.scalar? code with
        | some c => some (c, rest)
        | none => none

/-- The code of an escape leaves no more text than there was. -/
theorem length_escapeCode? {cs rest : List Char} {code : Nat}
    (h : escapeCode? cs = some (code, rest)) : rest.length ≤ cs.length := by
  unfold escapeCode? at h
  split at h
  · rename_i inside
    split at h
    · rename_i after n hd hn
      simp only [Option.some.injEq, Prod.mk.injEq] at h
      have :=
        (List.dropWhile_suffix (l := inside) (· ≠ '\x7d')).sublist.length_le
      rw [hd] at this
      simp only [← h.2, List.length_cons] at this ⊢
      omega
    · cases h
  · split at h
    · simp only [Option.some.injEq, Prod.mk.injEq] at h
      simp only [← h.2, List.length_cons]
      omega
    · cases h
  · cases h

/-- Nor does the other half of a pair. -/
theorem length_pairRest? {cs rest : List Char} {high : Nat} {c : Char}
    (h : pairRest? high cs = some (c, rest)) : rest.length ≤ cs.length := by
  unfold pairRest? at h
  split at h
  · split at h
    · rename_i hl
      have := length_escapeCode? hl
      split at h
      · simp only [Option.some.injEq, Prod.mk.injEq] at h
        simp only [← h.2, List.length_cons]
        omega
      · cases h
    · cases h
  · cases h

/-- Nor does the character of an escape. -/
theorem length_escapedScalar? {cs rest : List Char} {c : Char}
    (h : escapedScalar? cs = some (c, rest)) : rest.length ≤ cs.length := by
  unfold escapedScalar? at h
  split at h
  · cases h
  · rename_i hc
    have := length_escapeCode? hc
    split at h
    · exact Nat.le_trans (length_pairRest? h) this
    · split at h
      · simp only [Option.some.injEq, Prod.mk.injEq] at h
        simpa only [← h.2] using this
      · cases h

/-- Resolves the escapes between quotes. A line break there, or an escape
that stands for no character, spoils the text. -/
def unquote (cs : List Char) : Option (List Char) :=
  match cs with
  | [] => some []
  | '\\' :: 'u' :: rest =>
      match h : escapedScalar? rest with
      | some (c, after) =>
          have := length_escapedScalar? h
          (unquote after).map (c :: ·)
      | none => none
  | '\\' :: letter :: rest =>
      match Text.escaped? letter with
      | some c => (unquote rest).map (c :: ·)
      | none => none
  | c :: rest =>
      if c = '\n' ∨ c = '\r' then none else (unquote rest).map (c :: ·)
termination_by cs.length

-- ============================================================ blocks

/-- The characters up to the triple quote that closes a block, and what
follows it. A triple quote behind a backslash stands for itself. -/
def splitBlock : List Char → Option (List Char × List Char)
  | [] => none
  | '"' :: '"' :: '"' :: rest => some ([], rest)
  | '\\' :: '"' :: '"' :: '"' :: rest =>
      (splitBlock rest).map fun (raw, after) =>
        ('"' :: '"' :: '"' :: raw, after)
  | c :: rest => (splitBlock rest).map fun (raw, after) => (c :: raw, after)

/-- What follows a block is shorter. -/
theorem length_splitBlock {cs raw after : List Char}
    (h : splitBlock cs = some (raw, after)) :
    after.length < cs.length := by
  fun_induction splitBlock cs generalizing raw with
  | case1 => simp at h
  | case2 =>
      cases h
      simp only [List.length_cons]
      omega
  | case3 rest ih | case4 _ rest _ _ ih =>
      obtain ⟨⟨raw', after'⟩, h', he⟩ := Option.map_eq_some_iff.1 h
      cases he
      have := ih h'
      simp only [List.length_cons]
      omega

/-- The lines of a text; a carriage return with a line feed after it ends
one line, not two. -/
def lines : List Char → List (List Char)
  | [] => [[]]
  | '\r' :: '\n' :: rest => [] :: lines rest
  | c :: rest =>
      if c = '\n' ∨ c = '\r' then [] :: lines rest
      else
        match lines rest with
        | line :: more => (c :: line) :: more
        | [] => [[c]]

/-- The characters that indent a line. -/
def indents (c : Char) : Bool := c = ' ' || c = '\t'

/-- The width of a line's indentation; blank lines have none. -/
def indentation? (line : List Char) : Option Nat :=
  if line.all indents then none else some (line.takeWhile indents).length

/-- The text of a block: every line but the first loses the least
indentation among them, and blank lines at both ends go. -/
def dedent (cs : List Char) : List Char :=
  match lines cs with
  | [] => []
  | first :: more =>
      let width := ((more.filterMap indentation?).min?).getD 0
      let bare := first :: more.map (·.drop width)
      let shown :=
        ((bare.dropWhile (·.all indents)).reverse.dropWhile
          (·.all indents)).reverse
      ['\n'].intercalate shown

end SchemaDocs.Sdl
