/-
Numbers beyond the range of a double.

A JSON number is refused when it would read as an infinite double. The
number's value for this purpose is formed in three steps: its leading
digits, as long as they fit in 64 bits, are rounded to a double; so is
the power of ten that scales them; and so is their product. All of it is
exact arithmetic on natural numbers.
-/

namespace SchemaDocs.Json

/-- The nearest double to a natural number, a tie going to the even
neighbour; doubles here have 53 bits and no largest exponent. -/
def roundDouble (n : Nat) : Nat :=
  if n < 1 <<< 53 then n
  else
    let unit := 1 <<< (n.log2 - 52)
    let kept := n / unit
    let lost := n % unit
    let up := 2 * lost > unit || (2 * lost == unit && kept % 2 == 1)
    (if up then kept + 1 else kept) * unit

/-- Reads digits onto `start` as long as the result fits in 64 bits, and
counts the digits that were left out. -/
def leading (start : Nat) : List Nat → Nat × Nat
  | [] => (start, 0)
  | digit :: rest =>
      if start * 10 + digit < 1 <<< 64 then leading (start * 10 + digit) rest
      else (start, rest.length + 1)

/-- Whether `whole.fraction` times ten to the power `exponent` reads as an
infinite double. -/
def isInfinite (whole fraction : List Nat) (exponent : Int) : Bool :=
  let (head, beyond) := leading 0 whole
  let (significand, unread) := leading head fraction
  let scale := exponent + beyond - (fraction.length - unread : Nat)
  significand != 0 && (scale > 308 ||
    (scale ≥ 0 &&
      roundDouble (roundDouble significand
        * roundDouble (Nat.pow 10 scale.toNat)) ≥ 1 <<< 1024))

end SchemaDocs.Json
