/-
Punycode is read back as the label (`decode_encode`).

The writer goes through the label once for each code point beyond ASCII,
in ascending order, and counts the places where it inserts nothing. The
reader turns each number back into a code point and a place. They are in
step (`InStep`) when the digits written so far lead the reader to the
characters placed so far, and the count since then would lead it on to
where the writer stands.

One character keeps them in step, whether it is passed over, inserted or
left for later (`inStep_foldl_visit`, by induction along the label: what
is gone through holds the code point already, the rest does not). So does
the step from one code point to the next, and so do all passes together
(`inStep_place`, by induction on the code points). In the end every
character has been placed.
-/
import Mathlib.Data.List.InsertIdx
import Mathlib.Data.List.TakeWhile
import SchemaDocs.Proofs.Url.Punycode

namespace SchemaDocs.Url.Punycode

variable {basic label made : List Char} {w : Writer} {point spot : Nat}

-- ============================================================= numbers

theorem digitValue?_digitChar {d : Nat} (h : d < 36) :
    digitValue? (digitChar d) = some d := by
  have hall : ∀ d < 36, digitValue? (digitChar d) = some d := by decide
  exact hall d h

/-- A number is read back, whatever stands behind it. -/
theorem readNumber_writeNumber (bias place weight sum n : Nat)
    (rest : List Char) :
    readNumber bias place weight sum (writeNumber bias place n ++ rest)
      = some (sum + n * weight, rest) := by
  have hle := threshold_le bias place
  fun_induction writeNumber bias place n generalizing weight sum with
  | case1 place n t hlt =>
      rw [List.singleton_append, readNumber,
        digitValue?_digitChar (by omega)]
      exact if_pos hlt
  | case2 place n t hge ih =>
      have hmod : (n - t) % (36 - t) < 36 - t := Nat.mod_lt _ (by omega)
      rw [List.cons_append, readNumber, digitValue?_digitChar (by omega)]
      simp only []
      rw [if_neg (by omega : ¬t + (n - t) % (36 - t) < threshold bias place),
        ih _ _ (threshold_le bias _)]
      -- The digit, and `36 - t` times the rest of the number, make it up.
      have hn : t + (n - t) % (36 - t) + (n - t) / (36 - t) * (36 - t)
          = n := by
        rw [Nat.add_assoc, Nat.mod_add_div', Nat.add_sub_cancel' (by omega)]
      have hsum : sum + (t + (n - t) % (36 - t)) * weight
          + (n - t) / (36 - t) * (weight * (36 - t)) = sum + n * weight := by
        rw [Nat.mul_comm weight, ← Nat.mul_assoc, Nat.add_assoc,
          ← Nat.add_mul, hn]
      exact congrArg (fun total => some (total, rest)) hsum

theorem writeNumber_ne_nil (bias place n : Nat) :
    writeNumber bias place n ≠ [] := by
  fun_cases writeNumber bias place n <;> exact List.cons_ne_nil _ _

/-- A number that leads to a character inserts it. -/
theorem insertAll_writeNumber {c : Char} {last place n bias : Nat}
    {first : Bool}
    (hspot : spot ≤ made.length)
    (hcount : place + n = (c.toNat - last) * (made.length + 1) + spot)
    (hlast : last ≤ c.toNat) (rest : List Char) :
    insertAll made last place bias first (writeNumber bias 36 n ++ rest)
      = insertAll (made.insertIdx spot c) c.toNat (spot + 1)
          (adapt n (made.length + 1) first) false rest := by
  have hnext : last + (place + n) / (made.length + 1) = c.toNat := by
    rw [hcount, Nat.mul_comm, Nat.mul_add_div (Nat.succ_pos _),
      Nat.div_eq_of_lt (Nat.lt_succ_of_le hspot)]
    omega
  have hplace : (place + n) % (made.length + 1) = spot := by
    rw [hcount, Nat.mul_comm, Nat.mul_add_mod,
      Nat.mod_eq_of_lt (Nat.lt_succ_of_le hspot)]
  have hne : (writeNumber bias 36 n ++ rest).isEmpty = false := by
    rw [List.isEmpty_eq_false_iff]
    exact List.append_ne_nil_of_left_ne_nil (writeNumber_ne_nil _ _ _) _
  have hread : readNumber bias 36 1 0 (writeNumber bias 36 n ++ rest)
      = some (n, rest) := by
    rw [readNumber_writeNumber, Nat.zero_add, Nat.mul_one]
  rw [insertAll, hne]
  simp only [Bool.false_eq_true, if_false]
  split
  · next hnone =>
      rw [hread] at hnone
      cases hnone
  · next number behind hsome =>
      rw [hread] at hsome
      obtain ⟨rfl, rfl⟩ : n = number ∧ rest = behind := by simpa using hsome
      simp only [hnext, hplace, Char.ofNat_toNat]
      exact if_pos c.valid

-- ========================================================== one character

/-- The writer and a reader of its digits are in step: the writer has
placed `made`, and stands before the insertion at `spot` of `point`. -/
structure InStep (basic : List Char) (w : Writer) (made : List Char)
    (point spot : Nat) : Prop where
  placed : w.placed = made.length
  basic_le : basic.length ≤ made.length
  /-- The digits lead to `made`, and the count from there to the spot. -/
  reads : ∃ last place, last ≤ point
    ∧ place + w.skipped = (point - last) * (made.length + 1) + spot
    ∧ ∀ rest, insertAll basic 128 0 72 true (w.digits ++ rest)
      = insertAll made last place w.bias (w.placed = basic.length) rest

/-- A character that is placed already is passed over. -/
theorem InStep.skip {c : Char} (h : InStep basic w made point spot)
    (hlt : c.toNat < point) :
    InStep basic (w.visit basic.length point c) made point (spot + 1) := by
  obtain ⟨last, place, hlast, hcount, hreads⟩ := h.reads
  rw [Writer.visit, if_pos hlt]
  refine ⟨h.placed, h.basic_le, last, place, hlast, ?_, hreads⟩
  show place + (w.skipped + 1) = _
  omega

/-- A character of the code point is inserted. -/
theorem InStep.insert {c : Char} (h : InStep basic w made c.toNat spot)
    (hspot : spot ≤ made.length) :
    InStep basic (w.visit basic.length c.toNat c) (made.insertIdx spot c)
      c.toNat (spot + 1) := by
  obtain ⟨last, place, hlast, hcount, hreads⟩ := h.reads
  have hlength : (made.insertIdx spot c).length = made.length + 1 := by
    rw [List.length_insertIdx, if_pos hspot]
  have hlater : decide (w.placed + 1 = basic.length) = false := by
    have := h.placed
    have := h.basic_le
    exact decide_eq_false (by omega)
  rw [Writer.visit, if_neg (Nat.lt_irrefl _), if_pos rfl]
  refine ⟨?_, ?_, c.toNat, spot + 1, Nat.le_refl _, ?_, fun rest => ?_⟩
  · rw [hlength, h.placed]
  · rw [hlength]
    exact Nat.le_succ_of_le h.basic_le
  · show spot + 1 + 0 = (c.toNat - c.toNat) * _ + (spot + 1)
    rw [Nat.sub_self, Nat.zero_mul, Nat.zero_add, Nat.add_zero]
  · rw [List.append_assoc, hreads, insertAll_writeNumber hspot hcount hlast,
      hlater, h.placed]

/-- A character that comes later is left alone. -/
theorem InStep.leave {c : Char} (h : InStep basic w made point spot)
    (hgt : point < c.toNat) :
    InStep basic (w.visit basic.length point c) made point spot := by
  rwa [Writer.visit, if_neg (Nat.lt_asymm hgt), if_neg (Nat.ne_of_gt hgt)]

-- =============================================================== one pass

theorem insertIdx_length_append (front rest : List Char) (c : Char) :
    (front ++ rest).insertIdx front.length c = front ++ c :: rest := by
  induction front with
  | nil => rfl
  | cons d front ih => exact congrArg (d :: ·) ih

/-- A pass goes through the label: `front` is what stands before the rest
of the label once the code point is placed there. -/
theorem inStep_foldl_visit (front : List Char)
    (h : InStep basic w (front ++ label.filter (·.toNat < point)) point
      front.length) :
    InStep basic (label.foldl (Writer.visit basic.length point) w)
      (front ++ label.filter (·.toNat ≤ point)) point
      (front ++ label.filter (·.toNat ≤ point)).length := by
  induction label generalizing w front with
  | nil => simpa using h
  | cons c label ih =>
      rw [List.foldl_cons]
      rcases Nat.lt_trichotomy c.toNat point with hlt | rfl | hgt
      · rw [List.filter_cons_of_pos (by simpa using hlt)] at h
        rw [List.filter_cons_of_pos (by simpa using Nat.le_of_lt hlt),
          List.append_cons]
        refine ih _ ?_
        rw [← List.append_cons, List.length_append]
        exact h.skip hlt
      · rw [List.filter_cons_of_neg (by simp)] at h
        rw [List.filter_cons_of_pos (by simp), List.append_cons]
        refine ih _ ?_
        have hinsert := h.insert (by simp)
        rw [insertIdx_length_append] at hinsert
        rwa [← List.append_cons, List.length_append]
      · rw [List.filter_cons_of_neg (by simpa using Nat.le_of_lt hgt)] at h
        rw [List.filter_cons_of_neg (by simpa using hgt)]
        exact ih front (h.leave hgt)

-- ============================================================= all passes

/-- From one code point to the next there is a place more than there are
characters. -/
theorem InStep.next (h : InStep basic w made point made.length) :
    InStep basic { w with skipped := w.skipped + 1 } made (point + 1) 0 := by
  obtain ⟨last, place, hlast, hcount, hreads⟩ := h.reads
  refine ⟨h.placed, h.basic_le, last, place, Nat.le_succ_of_le hlast, ?_,
    hreads⟩
  show place + (w.skipped + 1) = _
  rw [Nat.succ_sub hlast, Nat.succ_mul]
  omega

/-- Code points that no character has are passed over as a whole. -/
theorem InStep.pass {next : Nat} (h : InStep basic w made next 0)
    (hnext : next ≤ point) :
    InStep basic
      { w with skipped := w.skipped + (point - next) * (w.placed + 1) }
      made point 0 := by
  obtain ⟨last, place, hlast, hcount, hreads⟩ := h.reads
  refine ⟨h.placed, h.basic_le, last, place, Nat.le_trans hlast hnext, ?_,
    hreads⟩
  show place + (w.skipped + (point - next) * (w.placed + 1)) = _
  have hsplit : point - last = next - last + (point - next) := by omega
  rw [← Nat.add_assoc, hcount, h.placed, hsplit, Nat.add_mul]
  omega

/-- When all code points from `next` on have had their pass, the label is
placed. -/
theorem inStep_place {points : List Nat} {next : Nat}
    (hsorted : points.Pairwise (· < ·))
    (hnext : ∀ point ∈ points, next ≤ point)
    (hall : ∀ c ∈ label, next ≤ c.toNat → c.toNat ∈ points)
    (h : InStep basic w (label.filter (·.toNat < next)) next 0) :
    ∃ point, InStep basic (Writer.place label basic.length points next w)
      label point 0 := by
  induction points generalizing next w with
  | nil =>
      refine ⟨next, ?_⟩
      have hlow : label.filter (·.toNat < next) = label := by
        refine List.filter_eq_self.mpr fun c hc => decide_eq_true ?_
        exact Nat.lt_of_not_le fun hle => List.not_mem_nil (hall c hc hle)
      rwa [hlow] at h
  | cons point points ih =>
      obtain ⟨hleast, hsorted⟩ := List.pairwise_cons.mp hsorted
      have hpoint := hnext point List.mem_cons_self
      -- No character lies between `next` and the code point.
      have hgap : label.filter (·.toNat < next)
          = label.filter (·.toNat < point) := by
        refine List.filter_congr fun c hc => decide_eq_decide.mpr ?_
        refine ⟨fun hlt => Nat.lt_of_lt_of_le hlt hpoint, fun hlt => ?_⟩
        refine Nat.lt_of_not_le fun hle => ?_
        rcases List.mem_cons.mp (hall c hc hle) with heq | hmem
        · omega
        · exact Nat.lt_asymm hlt (hleast _ hmem)
      have hstart := h.pass hpoint
      rw [hgap] at hstart
      have hdone := (inStep_foldl_visit [] hstart).next
      refine ih hsorted (fun later hlater => hleast later hlater) ?_ ?_
      · intro c hc hle
        rcases List.mem_cons.mp (hall c hc (by omega)) with heq | hmem
        · omega
        · exact hmem
      · have hle : label.filter (·.toNat < point + 1)
            = label.filter (·.toNat ≤ point) :=
          List.filter_congr fun c _ => decide_eq_decide.mpr Nat.lt_succ_iff
        rw [hle]
        exact hdone

-- ============================================================ code points

/-- Numbers in order, each but once, ascend. -/
theorem pairwise_lt_eraseDups {numbers : List Nat}
    (h : numbers.Pairwise (· ≤ ·)) : numbers.eraseDups.Pairwise (· < ·) := by
  induction hlength : numbers.length using Nat.strongRecOn
    generalizing numbers with
  | ind length ih =>
      cases numbers with
      | nil => exact List.Pairwise.nil
      | cons n numbers =>
          obtain ⟨hleast, hrest⟩ := List.pairwise_cons.mp h
          rw [List.eraseDups_cons, List.pairwise_cons]
          refine ⟨fun m hm => ?_, ?_⟩
          · obtain ⟨hmem, hne⟩ := List.mem_filter.mp (List.mem_eraseDups.mp hm)
            have := hleast m hmem
            have : m ≠ n := by simpa using hne
            omega
          · refine ih _ ?_ (hrest.filter _) rfl
            have := List.length_filter_le (fun m => !m == n) numbers
            rw [← hlength, List.length_cons]
            omega

/-- The code points of a label ascend. -/
theorem pairwise_points (label : List Char) :
    (points label).Pairwise (· < ·) := by
  refine pairwise_lt_eraseDups (List.Pairwise.imp of_decide_eq_true
    (List.pairwise_mergeSort (fun a b c hab hbc => ?_) (fun a b => ?_) _))
  · simp only [decide_eq_true_eq] at hab hbc ⊢
    exact Nat.le_trans hab hbc
  · simp only [Bool.or_eq_true, decide_eq_true_eq]
    exact Nat.le_total a b

/-- They are the code points of its characters beyond ASCII. -/
theorem mem_points_iff {point : Nat} :
    point ∈ points label ↔ ∃ c ∈ label, 128 ≤ c.toNat ∧ c.toNat = point := by
  rw [points, List.mem_eraseDups, List.mem_mergeSort]
  simp [and_assoc]

-- ============================================================== the label

/-- The digits lead from the ASCII characters to the whole label. -/
theorem insertAll_place (label : List Char) :
    let basic := label.filter fun c => c.toNat < 128
    insertAll basic 128 0 72 true
      (Writer.place label basic.length (points label) 128
        ⟨[], 0, 72, basic.length⟩).digits
      = some label := by
  intro basic
  have hstart : InStep basic ⟨[], 0, 72, basic.length⟩ basic 128 0 := by
    refine ⟨rfl, Nat.le_refl _, 128, 0, Nat.le_refl _, ?_, fun rest => ?_⟩
    · rw [Nat.sub_self, Nat.zero_mul]
    · rw [List.nil_append, decide_eq_true rfl]
  have hbeyond : ∀ point ∈ points label, 128 ≤ point := by
    intro point hpoint
    obtain ⟨c, -, hle, rfl⟩ := mem_points_iff.mp hpoint
    exact hle
  obtain ⟨point, hdone⟩ := inStep_place (pairwise_points label) hbeyond
    (fun c hc hle => mem_points_iff.mpr ⟨c, hc, hle, rfl⟩) hstart
  obtain ⟨last, place, -, -, hreads⟩ := hdone.reads
  have hread := hreads []
  rw [List.append_nil] at hread
  rw [hread, insertAll]
  rfl

/-- ASCII characters and the digits behind them are read apart. -/
theorem decode_append {digits : List Char}
    (hbasic : ∀ c ∈ basic, c.toNat < 128) (hdigits : ∀ c ∈ digits, c ≠ '-') :
    decode (basic ++ (if basic.isEmpty then [] else ['-']) ++ digits)
      = insertAll basic 128 0 72 true digits := by
  have hhyphen : ∀ c ∈ digits.reverse, decide (c ≠ '-') = true := fun c hc =>
    decide_eq_true (hdigits c (List.mem_reverse.mp hc))
  cases basic with
  | nil =>
      have htail : digits.reverse.takeWhile (· ≠ '-') = digits.reverse :=
        List.takeWhile_eq_self_iff.mpr hhyphen
      have hhead : digits.take (digits.length - digits.length - 1) = [] := by
        rw [Nat.sub_self, Nat.zero_sub, List.take_zero]
      rw [List.isEmpty_nil, if_pos rfl, List.append_nil, List.nil_append]
      unfold decode
      simp only [htail, List.reverse_reverse, hhead]
      rfl
  | cons c basic =>
      have htail : ((c :: basic) ++ '-' :: digits).reverse.takeWhile (· ≠ '-')
          = digits.reverse := by
        rw [List.reverse_append, List.reverse_cons, List.append_assoc,
          List.takeWhile_append_of_pos hhyphen]
        exact List.append_nil _
      have hhead : ((c :: basic) ++ '-' :: digits).take
          (((c :: basic) ++ '-' :: digits).length - digits.length - 1)
          = c :: basic := by
        refine List.take_left' ?_
        simp only [List.length_append, List.length_cons]
        omega
      have hall : (c :: basic).all (fun c => c.toNat < 128) = true :=
        List.all_eq_true.mpr fun c hc => decide_eq_true (hbasic c hc)
      rw [List.isEmpty_cons, if_neg Bool.false_ne_true, List.append_assoc,
        List.singleton_append]
      unfold decode
      simp only [htail, List.reverse_reverse, hhead]
      rw [List.isEmpty_cons, if_neg Bool.false_ne_true, if_pos hall]

/-- Every label is read from the Punycode it is written in. -/
theorem decode_encode (label : List Char) :
    decode (encode label) = some label := by
  unfold encode
  rw [decode_append, insertAll_place]
  · exact fun c hc => of_decide_eq_true (List.mem_filter.mp hc).2
  · intro c hc
    rcases of_mem_place hc with hnone | ⟨d, hd, rfl⟩
    · cases hnone
    · have hall : ∀ d < 36, digitChar d ≠ '-' := by decide
      exact hall d hd

example : encode "bücher".toList = "bcher-kva".toList := by decide +kernel

end SchemaDocs.Url.Punycode
