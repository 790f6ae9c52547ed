/-
Passing over what is not kept.

Arguments, default values, directives and whole requests leave nothing
behind. They are passed over with a stack of goals, each of which says
what may come next: a goal is done with the tokens at hand or gives way to
the goals of its parts. So no nesting is too deep.
-/
import SchemaDocs.Sdl.Cursor

namespace SchemaDocs.Sdl

-- ============================================================ goals

/-- What is to be passed over. -/
inductive Goal
  /-- That mark. -/
  | closing (mark : Mark)
  /-- A name. -/
  | name
  /-- Names with marks between them, and perhaps a mark before the first. -/
  | separated (mark : Mark)
  /-- More names, each with a mark before it. -/
  | furtherNames (mark : Mark)
  /-- A type. -/
  | type
  /-- A value. A token that opens none is passed over too if `greedy`. -/
  | value (greedy : Bool)
  /-- The items of a list, with its closing bracket. -/
  | items
  /-- The members of an object, up to its closing brace. -/
  | entries
  /-- Arguments in parentheses, if there are any. -/
  | arguments
  /-- Arguments, up to the closing parenthesis. -/
  | furtherArguments
  /-- Directives, if there are any. -/
  | directives
  /-- A default value, if there is one. -/
  | default
  /-- What follows the name of an input value. -/
  | typed
  /-- Definitions of arguments in parentheses, if there are any. -/
  | argumentDefinitions
  /-- Definitions of input values. -/
  | inputValues
  /-- Definitions of variables in parentheses, if there are any. -/
  | variableDefinitions
  /-- Definitions of variables, up to the closing parenthesis. -/
  | furtherVariables
  /-- Selections in braces, if there are any. -/
  | selectionSet
  /-- Selections, up to the closing brace. -/
  | selections
  deriving DecidableEq, Repr

/-- How many steps a goal may take without a token passed over. -/
def Goal.weight : Goal → Nat
  | .separated _ => 3
  | _ => 1

/-- The weight of a stack of goals. -/
def weight : List Goal → Nat
  | [] => 0
  | goal :: later => goal.weight + weight later

/-- The weight of a stack is that of its parts. -/
theorem weight_append (first later : List Goal) :
    weight (first ++ later) = weight first + weight later := by
  induction first with
  | nil => simp [weight]
  | cons goal rest ih => simp only [List.cons_append, weight, ih]; omega

/-- What is left of a value behind the token that opens it. -/
def valueGoals? : Token → Option (List Goal)
  | .name _ | .number | .text _ => some []
  | .mark .dollar => some [.name]
  | .mark .openBracket => some [.items]
  | .mark .openBrace => some [.entries, .closing .closeBrace]
  | _ => none

/-- A token that opens a value leaves at most two goals behind it. -/
theorem weight_of_valueGoals {token : Token} {goals : List Goal}
    (h : valueGoals? token = some goals) : weight goals ≤ 2 := by
  fun_cases valueGoals? token <;> grind [valueGoals?, weight, Goal.weight]

/-- Whether a token opens a value. -/
def opensValue (token : Token) : Bool := (valueGoals? token).isSome

/-- Whether a token opens a type. -/
def opensType : Token → Bool
  | .name _ | .mark .openBracket => true
  | _ => false

/-- Whether a token opens the definition of a field, an input value or an
enum value. -/
def opensMember : Token → Bool
  | .name _ | .text _ => true
  | _ => false

/-- Whether a token is a name. -/
def isNameToken : Token → Bool
  | .name _ => true
  | _ => false

/-- Whether the first of the tokens is as `p` says. -/
def headIs (p : Token → Bool) (tokens : List Token) : Bool :=
  tokens.head?.any p

-- ============================================================ skipping

/-- What a goal does: the goals it gives way to, the tokens that are left,
and whether all was in order. -/
structure Step where
  goals : List Goal
  rest : List Token
  sound : Bool

/-- The step of a goal at the tokens at hand. -/
def Goal.step (goal : Goal) (tokens : List Token) : Step :=
  match goal, tokens with
  | closing mark, .mark m :: rest =>
      if m = mark then ⟨[], rest, true⟩ else ⟨[], tokens, false⟩
  | closing _, _ => ⟨[], tokens, false⟩
  | name, .name _ :: rest => ⟨[], rest, true⟩
  | name, _ => ⟨[], tokens, false⟩
  | separated mark, .mark m :: rest =>
      if m = mark then ⟨[name, furtherNames mark], rest, true⟩
      else ⟨[name, furtherNames mark], tokens, true⟩
  | separated mark, _ => ⟨[name, furtherNames mark], tokens, true⟩
  | furtherNames mark, .mark m :: rest =>
      if m = mark then ⟨[name, furtherNames mark], rest, true⟩
      else ⟨[], tokens, true⟩
  | furtherNames _, _ => ⟨[], tokens, true⟩
  | type, _ => ⟨[], (readType tokens).2.rest, (readType tokens).2.sound⟩
  | value greedy, token :: rest =>
      match valueGoals? token with
      | some goals => ⟨goals, rest, token ≠ .mark .dollar⟩
      | none => if greedy then ⟨[], rest, false⟩ else ⟨[], tokens, false⟩
  | value _, [] => ⟨[], [], false⟩
  | items, .mark .closeBracket :: rest => ⟨[], rest, true⟩
  | items, token :: rest =>
      match valueGoals? token with
      | some goals => ⟨goals ++ [items], rest, token ≠ .mark .dollar⟩
      | none => ⟨[items], rest, false⟩
  | items, [] => ⟨[], [], false⟩
  | entries, .name _ :: .mark .colon :: rest =>
      ⟨[value true, entries], rest, true⟩
  | entries, .name _ :: rest => ⟨[entries], rest, false⟩
  | entries, _ => ⟨[], tokens, true⟩
  | arguments, .mark .openParen :: rest =>
      ⟨[furtherArguments, closing .closeParen], rest, headIs isNameToken rest⟩
  | arguments, _ => ⟨[], tokens, true⟩
  | furtherArguments, .name _ :: .mark .colon :: rest =>
      ⟨[value false, furtherArguments], rest, true⟩
  | furtherArguments, .name _ :: rest => ⟨[furtherArguments], rest, false⟩
  | furtherArguments, _ => ⟨[], tokens, true⟩
  | directives, .mark .atSign :: rest =>
      ⟨[name, arguments, directives], rest, true⟩
  | directives, _ => ⟨[], tokens, true⟩
  | default, .mark .equals :: rest => ⟨[value false], rest, true⟩
  | default, _ => ⟨[], tokens, true⟩
  | typed, .mark .colon :: rest =>
      if headIs opensType rest then ⟨[type, default, directives], rest, true⟩
      else ⟨[], rest, false⟩
  | typed, _ => ⟨[], tokens, false⟩
  | argumentDefinitions, .mark .openParen :: rest =>
      ⟨[inputValues, closing .closeParen], rest, headIs opensMember rest⟩
  | argumentDefinitions, _ => ⟨[], tokens, true⟩
  | inputValues, .text _ :: rest => ⟨[name, typed, inputValues], rest, true⟩
  | inputValues, .name _ :: rest => ⟨[typed, inputValues], rest, true⟩
  | inputValues, _ => ⟨[], tokens, true⟩
  | variableDefinitions, .mark .openParen :: rest =>
      ⟨[furtherVariables, closing .closeParen], rest, true⟩
  | variableDefinitions, _ => ⟨[], tokens, true⟩
  | furtherVariables, .mark .dollar :: rest =>
      ⟨[name, typed, furtherVariables], rest, true⟩
  | furtherVariables, _ => ⟨[], tokens, true⟩
  | selectionSet, .mark .openBrace :: rest =>
      ⟨[selections, closing .closeBrace], rest, true⟩
  | selectionSet, _ => ⟨[], tokens, true⟩
  | selections, .name _ :: .mark .colon :: rest =>
      ⟨[name, arguments, directives, selectionSet, selections], rest, true⟩
  | selections, .name _ :: rest =>
      ⟨[arguments, directives, selectionSet, selections], rest, true⟩
  | selections, .mark .spread :: .name word :: rest =>
      if word.text = "on" then
        ⟨[name, directives, selectionSet, selections], rest, true⟩
      else ⟨[directives, selections], rest, true⟩
  | selections, .mark .spread :: rest =>
      ⟨[directives, selectionSet, selections], rest, true⟩
  | selections, _ => ⟨[], tokens, true⟩

/-- Each step lowers the count of tokens, taken four times, with the
weight of the goals: no token brings in more than three goals besides the
one it is passed over for. -/
theorem Goal.step_lt (goal : Goal) (tokens : List Token) :
    4 * (goal.step tokens).rest.length + Sdl.weight (goal.step tokens).goals
      < 4 * tokens.length + goal.weight := by
  have := length_readType tokens
  have := @weight_of_valueGoals
  fun_cases Goal.step goal tokens <;>
    grind [Sdl.weight, Goal.weight, weight_append]

/-- Passes over what the goals say, the first of them first. -/
def skip (goals : List Goal) (cursor : Cursor) : Cursor :=
  match goals with
  | [] => cursor
  | goal :: later =>
      let step := goal.step cursor.rest
      skip (step.goals ++ later) ⟨step.rest, cursor.sound && step.sound⟩
termination_by 4 * cursor.rest.length + weight goals
decreasing_by
  have := goal.step_lt cursor.rest
  simp only [weight_append, weight]
  omega

end SchemaDocs.Sdl
