/-
Written numbers are read back.

A number is written as decimal digits, with a minus in front of them if
it is negative and a power of ten behind them unless that is one. The
reader takes a number apart into its whole part, its fraction and its
exponent; of a written number the fraction is empty, so that the exponent
is read where the digits end. That they end there is a matter of what
stands behind the number: nothing, a comma or a closing bracket (`Ends`).

The digits themselves are core's (`Nat.toDigits`), whose laws say that
they write the number. What is added here is that only zero starts with
a zero (`eq_zero_of_leading_zero`), for the reader refuses zeros in front,
and that what is counted in a machine word is far from the largest double
(`isInfinite_digitsOf`), for it refuses numbers beyond that as well.
-/
import SchemaDocs.Json.Parser
import SchemaDocs.Json.Printer

namespace SchemaDocs.Json

variable {rest : List Char}

-- ============================================================== digits

/-- The decimal digits of a number, first things first. -/
def digitsOf (n : Nat) : List Nat :=
  (Nat.toDigits 10 n).map fun c => c.toNat - 48

theorem isDigit_of_mem_digits {n : Nat} {c : Char}
    (h : c ∈ Nat.toDigits 10 n) : c.isDigit = true :=
  Nat.isDigit_of_mem_toDigits (by decide) (by decide) h

/-- A number is written in at least one digit. -/
theorem toDigits_cons (n : Nat) :
    ∃ c cs, Nat.toDigits 10 n = c :: cs ∧ c.isDigit = true := by
  cases hn : Nat.toDigits 10 n with
  | nil => exact absurd hn Nat.toDigits_ne_nil
  | cons c cs =>
      exact ⟨c, cs, rfl, isDigit_of_mem_digits (hn ▸ List.mem_cons_self)⟩

theorem digitsOf_ne_nil (n : Nat) : digitsOf n ≠ [] := by
  intro h
  exact Nat.toDigits_ne_nil (List.map_eq_nil_iff.mp h)

/-- The digits of a number write it. -/
theorem ofDigits_digitsOf (n : Nat) : ofDigits (digitsOf n) = n := by
  have hstep : (fun (sofar : Nat) (c : Char) => sofar * 10 + (c.toNat - 48))
      = fun sofar c => 10 * sofar + (c.toNat - '0'.toNat) := by
    funext sofar c
    rw [Nat.mul_comm]
    rfl
  unfold ofDigits digitsOf
  rw [List.foldl_map, hstep, ← Nat.ofDigitChars_eq_foldl,
    Nat.ofDigitChars_ten_toDigits]

theorem digitsOf_of_lt {n : Nat} (h : n < 10) : digitsOf n = [n] := by
  unfold digitsOf
  rw [Nat.toDigits_of_lt_base h, List.map_singleton,
    Nat.toNat_digitChar_sub_48_of_lt_ten h]

theorem digitsOf_of_le {n : Nat} (h : 10 ≤ n) :
    digitsOf n = digitsOf (n / 10) ++ [n % 10] := by
  unfold digitsOf
  rw [Nat.toDigits_of_base_le (by decide) h, List.map_append,
    List.map_singleton,
    Nat.toNat_digitChar_sub_48_of_lt_ten (Nat.mod_lt n (by decide))]

/-- Only zero starts with a zero. -/
theorem eq_zero_of_leading_zero {n : Nat} {ds : List Nat}
    (h : digitsOf n = 0 :: ds) : n = 0 := by
  induction n using Nat.strongRecOn generalizing ds with
  | ind n ih =>
      by_cases hn : n < 10
      · rw [digitsOf_of_lt hn] at h
        exact (List.cons.inj h).1
      · rw [digitsOf_of_le (Nat.le_of_not_lt hn)] at h
        -- the first digit is that of the tenth, which is not zero
        cases htenth : digitsOf (n / 10) with
        | nil => exact absurd htenth (digitsOf_ne_nil _)
        | cons d ds =>
            rw [htenth, List.cons_append] at h
            rw [(List.cons.inj h).1] at htenth
            have := ih (n / 10) (by omega) htenth
            omega

-- ====================================================== reading digits

/-- What core takes for a digit the reader does, too. -/
theorem digit?_of_isDigit {c : Char} (h : c.isDigit = true) :
    digit? c = some (c.toNat - 48) := by
  unfold Char.isDigit at h
  simp only [ge_iff_le, Bool.and_eq_true, decide_eq_true_eq] at h
  exact if_pos h

/-- Digits are read up to what does not go on with them. -/
theorem digits_append {cs : List Char}
    (hcs : ∀ c ∈ cs, c.isDigit = true)
    (hrest : ∀ c ∈ rest.head?, digit? c = none) :
    digits (cs ++ rest) = (cs.map fun c => c.toNat - 48, rest) := by
  induction cs with
  | nil =>
      cases rest with
      | nil => rfl
      | cons c rest =>
          have hc := hrest c rfl
          simp [digits, hc]
  | cons c cs ih =>
      have hc := digit?_of_isDigit (hcs c List.mem_cons_self)
      have hmore := ih fun d hd => hcs d (List.mem_cons_of_mem _ hd)
      simp [digits, hc, hmore]

/-- The digits of a number are taken, and nothing behind them. -/
theorem someDigits_toDigits (n : Nat)
    (hrest : ∀ c ∈ rest.head?, digit? c = none) :
    someDigits (Nat.toDigits 10 n ++ rest) = .ok (digitsOf n, rest) := by
  have hdigits : digits (Nat.toDigits 10 n ++ rest) = (digitsOf n, rest) :=
    digits_append (fun _ hc => isDigit_of_mem_digits hc) hrest
  unfold someDigits
  rw [hdigits]
  cases hn : digitsOf n with
  | nil => exact absurd hn (digitsOf_ne_nil n)
  | cons d ds => rfl

/-- They pass as a whole part, for none starts with a needless zero. -/
theorem wholePart_toDigits (n : Nat)
    (hrest : ∀ c ∈ rest.head?, digit? c = none) :
    wholePart (Nat.toDigits 10 n ++ rest) = .ok (digitsOf n, rest) := by
  unfold wholePart
  rw [someDigits_toDigits n hrest]
  cases hn : digitsOf n with
  | nil => rfl
  | cons d ds =>
      cases d with
      | succ d => rfl
      | zero =>
          -- a zero in front is the number itself
          have hzero := eq_zero_of_leading_zero hn
          subst hzero
          cases hn
          rfl

-- =========================================================== exponents

/-- What can stand behind a value: nothing, a comma or a closing bracket. -/
def Ends (rest : List Char) : Prop :=
  ∀ c ∈ rest.head?, c = ',' ∨ c = ']' ∨ c = '\x7d'

/-- What may stand behind a number is no digit. -/
theorem digit?_of_ends (h : Ends rest) :
    ∀ c ∈ rest.head?, digit? c = none := by
  intro c hc
  rcases h c hc with rfl | rfl | rfl <;> decide

/-- The exponent of a number as it is written. -/
def exponentText (exponent : Int) : List Char :=
  if exponent = 0 then [] else 'e' :: writeInt exponent

/-- The digits of a number end where its exponent starts. -/
theorem digit?_of_exponent (h : Ends rest) (exponent : Int) :
    ∀ c ∈ (exponentText exponent ++ rest).head?, digit? c = none := by
  unfold exponentText
  split
  · exact digit?_of_ends h
  · intro c hc
    cases hc
    decide

/-- A written number has no fraction. -/
theorem fractionPart_exponent (h : Ends rest) (exponent : Int) :
    fractionPart (exponentText exponent ++ rest)
      = .ok ([], exponentText exponent ++ rest) := by
  unfold exponentText
  split
  · cases rest with
    | nil => rfl
    | cons c rest =>
        rcases h c rfl with rfl | rfl | rfl <;> rfl
  · rfl

/-- Digits without a sign are an exponent that is not negative. -/
theorem exponentPart_toDigits (h : Ends rest) (n : Nat) :
    exponentPart ('e' :: Nat.toDigits 10 n ++ rest)
      = .ok ((n : Int), rest) := by
  have hdigits := someDigits_toDigits n (digit?_of_ends h)
  obtain ⟨c, cs, hcs, hc⟩ := toDigits_cons n
  have hminus : c ≠ '-' := by
    rintro rfl
    cases hc
  have hplus : c ≠ '+' := by
    rintro rfl
    cases hc
  have hread : exponentPart ('e' :: c :: (cs ++ rest))
      = (someDigits (c :: (cs ++ rest))).bind
          fun read => .ok ((ofDigits read.1 : Int), read.2) := by
    simp [exponentPart, hminus, hplus]
    rfl
  rw [hcs, List.cons_append] at hdigits
  rw [hcs, List.cons_append, List.cons_append, hread, hdigits]
  show Except.ok ((ofDigits (digitsOf n) : Int), rest) = _
  rw [ofDigits_digitsOf]

/-- The exponent of a number is read back. -/
theorem exponentPart_exponent (h : Ends rest) (exponent : Int) :
    exponentPart (exponentText exponent ++ rest) = .ok (exponent, rest) := by
  unfold exponentText
  split
  · next hzero =>
      subst hzero
      cases rest with
      | nil => rfl
      | cons c rest =>
          rcases h c rfl with rfl | rfl | rfl <;> rfl
  · unfold writeInt
    split
    · next hneg =>
        show (someDigits (Nat.toDigits 10 exponent.natAbs ++ rest)).bind _ = _
        rw [someDigits_toDigits exponent.natAbs (digit?_of_ends h)]
        show Except.ok (-(ofDigits (digitsOf exponent.natAbs) : Int), rest) = _
        rw [ofDigits_digitsOf]
        congr
        omega
    · next hpos =>
        rw [exponentPart_toDigits h]
        congr
        omega

-- ============================================================= numbers

/-- A number without its sign is read back. -/
theorem unsigned_write (negative : Bool) (n : Nat) {exponent : Int}
    (hrange : isInfinite (digitsOf n) [] exponent = false)
    (h : Ends rest) :
    unsigned negative (Nat.toDigits 10 n ++ (exponentText exponent ++ rest))
      = .ok (number (if negative then -n else n) exponent, rest) := by
  unfold unsigned
  rw [wholePart_toDigits n (digit?_of_exponent h exponent)]
  show (fractionPart (exponentText exponent ++ rest)).bind _ = _
  rw [fractionPart_exponent h]
  show (exponentPart (exponentText exponent ++ rest)).bind _ = _
  rw [exponentPart_exponent h]
  show (if isInfinite (digitsOf n) [] exponent then _ else _) = _
  rw [hrange, List.append_nil, ofDigits_digitsOf]
  show Except.ok (number _ (exponent - 0), rest) = _
  rw [Int.sub_zero]

/-- A number is its whole part and its exponent. -/
theorem write_number (mantissa exponent : Int) :
    write (number mantissa exponent)
      = writeInt mantissa ++ exponentText exponent := by
  show (if exponent = 0 then writeInt mantissa
    else writeInt mantissa ++ 'e' :: writeInt exponent) = _
  unfold exponentText
  split
  · rw [List.append_nil]
  · rfl

-- =============================================================== range

/-- Reading digits onto a number makes it no smaller. -/
theorem le_foldl_digits {start : Nat} (ds : List Nat) :
    start ≤ ds.foldl (fun n d => n * 10 + d) start := by
  induction ds generalizing start with
  | nil => exact Nat.le_refl _
  | cons d ds ih =>
      have hhead : start ≤ start * 10 + d := by omega
      exact Nat.le_trans hhead ih

/-- Digits are all read if the number that they write fits in 64 bits. -/
theorem leading_eq {start : Nat} {ds : List Nat}
    (h : ds.foldl (fun n d => n * 10 + d) start < 1 <<< 64) :
    leading start ds = (ds.foldl (fun n d => n * 10 + d) start, 0) := by
  induction ds generalizing start with
  | nil => rfl
  | cons d ds ih =>
      have hhead : start * 10 + d < 1 <<< 64 :=
        Nat.lt_of_le_of_lt (le_foldl_digits ds) h
      rw [leading, if_pos hhead, ih h]
      rfl

/-- Rounding to a double adds less than the unit of the last place. -/
theorem roundDouble_le (n : Nat) : roundDouble n ≤ 2 * n := by
  unfold roundDouble
  split
  · omega
  · rename_i hbig
    have hunit : 1 <<< (n.log2 - 52) ≤ n := by
      rw [Nat.one_shiftLeft]
      refine Nat.le_trans (Nat.pow_le_pow_right (by decide)
        (Nat.sub_le n.log2 52)) (Nat.log2_self_le ?_)
      rintro rfl
      exact hbig (by decide)
    have hkept := Nat.div_mul_le_self n (1 <<< (n.log2 - 52))
    dsimp only
    split
    · rw [Nat.succ_mul]
      omega
    · omega

/-- A number in a machine word is in the range of the reader. -/
theorem isInfinite_digitsOf {n : Nat} (h : n < 1 <<< 64) :
    isInfinite (digitsOf n) [] 0 = false := by
  have hleading : leading 0 (digitsOf n) = (n, 0) := by
    have hn := ofDigits_digitsOf n
    unfold ofDigits at hn
    rw [leading_eq (by rw [hn]; exact h), hn]
  have hround : roundDouble (roundDouble n * roundDouble (Nat.pow 10 0))
      < 1 <<< 1024 := by
    have hone : roundDouble (Nat.pow 10 0) = 1 := by decide
    have hfirst := roundDouble_le n
    have hsecond := roundDouble_le (roundDouble n * 1)
    rw [hone]
    omega
  unfold isInfinite
  rw [hleading]
  -- there are no decimals, and nothing scales the number
  show (n != 0 && (decide ((0 : Int) > 308) || (decide ((0 : Int) ≥ 0)
    && decide (roundDouble (roundDouble n * roundDouble (Nat.pow 10 0))
      ≥ 1 <<< 1024)))) = false
  rw [decide_eq_false (Nat.not_le.mpr hround)]
  simp

end SchemaDocs.Json
