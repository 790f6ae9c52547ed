/-
Which events are shown.

A filter is written as directives with commas between them: a level, the
name of a part of the program, or both with an equals sign between them.
For an event the directive with the longest part that its source starts
with decides, and of several for one part the last. A directive in
brackets selects nothing. One mistake spoils the whole filter.
-/
import SchemaDocs.Log.Event
import SchemaDocs.Text.Blank

namespace SchemaDocs.Log

/-- Up to which rank the events of a part are shown. -/
structure Directive where
  part : List Char
  rank : Nat
  deriving DecidableEq, Repr

/-- The rank that a name or a digit stands for; the word off stands for
no event at all. -/
def rankOf? (text : List Char) : Option Nat :=
  match text with
  | [c] => if '0' ≤ c ∧ c ≤ '5' then some (c.toNat - 48) else none
  | _ =>
      if text.map Char.toLower = "off".toList then some 0
      else (Level.ofLabel? (String.ofList text)).map Level.rank

/-- Whether a directive may start with the character. -/
def startsDirective (c : Char) : Bool :=
  c.isAlphanum || c = '-' || c = ':' || c = '_'

/-- Reads a directive. The part alone stands for all of its events. -/
def readDirective (text : List Char) : Option Directive :=
  match text.dropWhile Text.isBlank with
  | [] => none
  | c :: _ =>
      if c = '[' then some ⟨text, 0⟩
      else if !startsDirective c then none
      else
        match text.span (· ≠ '=') with
        | (part, '=' :: level) =>
            if part.head? ≠ some c then none
            else if part.contains '[' then some ⟨text, 0⟩
            else if level.isEmpty then some ⟨part, 5⟩
            else (rankOf? level).map fun rank => ⟨part, rank⟩
        | _ =>
            match rankOf? text with
            | some rank => some ⟨[], rank⟩
            | none => some ⟨text, 5⟩

/-- The pieces between commas, without the empty ones. -/
def pieces (text : List Char) : List (List Char) :=
  let (last, before) := text.foldr
    (fun c (piece, later) =>
      if c = ',' then ([], piece :: later) else (c :: piece, later))
    (([], []) : List Char × List (List Char))
  (last :: before).filter fun piece => !piece.isEmpty

/-- A filter: its directives, in the order they were given. -/
structure Filter where
  directives : List Directive
  deriving DecidableEq, Repr

namespace Filter

/-- The filter that shows all events up to a level. -/
def upTo (level : Level) : Filter := ⟨[⟨[], level.rank⟩]⟩

/-- Reads a filter. -/
def parse (text : String) : Option Filter :=
  ((pieces text.toList).mapM readDirective).map Filter.mk

/-- The directive that decides on a source: of two the one with the longer
part, and the later one where they are of one length. -/
def deciding (filter : Filter) (source : List Char) : Option Directive :=
  (filter.directives.filter fun directive =>
    directive.part.isPrefixOf source).foldl
    (fun best directive =>
      match best with
      | some other =>
          if other.part.length ≤ directive.part.length then some directive
          else best
      | none => some directive)
    none

/-- Whether an event is shown. -/
def shows (filter : Filter) (event : Event) : Bool :=
  (filter.deciding event.source.toList).any fun directive =>
    event.level.rank ≤ directive.rank

end Filter

end SchemaDocs.Log
