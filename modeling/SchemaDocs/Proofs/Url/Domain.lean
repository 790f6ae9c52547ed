/-
The ASCII form of a domain name stands.

A name that was brought into ASCII is a name in ASCII form already: it is
mapped, cut, read, checked and written as it is (`toAscii_toAscii`). Two
things make it so. None of its characters is one that mapping would
change or that may not stand in a name (`isPlain_of_mem_toAscii`); this
goes through every label, where Punycode adds nothing but small letters,
numerals and hyphens. And a label that was read is read from what it is
written in (`readLabel_writeLabel`), because Punycode is read back as the
label, so that the labels are the same again, and with them all that is
asked of the name as a whole.

Names of digits and dots are in ASCII form as well (`toAscii_of_digits`).
They are how addresses are written. The table of directions has to be
looked into for them, for numerals are no letters.
-/
import Mathlib.Data.List.Basic
import SchemaDocs.Proofs.Unicode.Tables
import SchemaDocs.Proofs.Url.Insertions
import SchemaDocs.Proofs.Url.Numeral
import SchemaDocs.Url.Domain.Basic

namespace SchemaDocs.Unicode

-- ============================================================== tables

/-- A class other than zero is that of a row around the character. -/
theorem Classes.exists_row {classes : Classes} {c : Char}
    (h : classes.of c ≠ 0) :
    ∃ row ∈ classes.rows.toList,
      row.1 ≤ c.toNat ∧ c.toNat ≤ row.2.1 ∧ row.2.2 = classes.of c := by
  unfold Classes.of at h ⊢
  split at h
  · next first last value hseek =>
      obtain ⟨hrow, hfirst⟩ := mem_of_seek hseek
      split at h
      · next hlast =>
          rw [if_pos hlast]
          exact ⟨_, hrow, hfirst, hlast, rfl⟩
      · exact absurd rfl h
  · exact absurd rfl h

/-- The rows of a table start where it does or later. -/
theorem le_of_mem_readClasses {place : Nat} {numbers : List Nat}
    {row : Nat × Nat × Nat} (h : row ∈ readClasses place numbers) :
    place ≤ row.1 := by
  fun_induction readClasses place numbers with
  | case1 place gap width value rest ih =>
      rcases List.mem_cons.mp h with rfl | h
      · exact Nat.le_add_right _ _
      · have := ih h
        omega
  | case2 => cases h

/-- The first line of a table can be read apart from the others. -/
theorem Classes.rows_ofLines_cons (line : String) (lines : List String) :
    (Classes.ofLines (line :: lines)).rows.toList
      = readClasses 0 (numbersOnLine line ++ numbers lines) :=
  rfl

end SchemaDocs.Unicode

namespace SchemaDocs.Url.Domain

open Ipv4 (splitOn)
open Unicode (Classes readClasses le_of_mem_readClasses of_ascii)

-- ============================================================ numerals

/-- The first rows of the table of directions. The numerals are in the
last of them. -/
def firstRows : List (Nat × Nat × Nat) :=
  [(0, 8, 9), (9, 13, 11), (14, 27, 9), (28, 32, 11), (33, 34, 8),
    (35, 37, 7), (38, 42, 8), (43, 43, 5), (44, 44, 6), (45, 45, 5),
    (46, 47, 6), (48, 57, 4)]

/-- They are written on its first line. -/
theorem directionTable_line :
    ∃ line lines, directionTable = .ofLines (line :: lines)
      ∧ Unicode.numbersOnLine line
        = [0, 8, 9, 0, 4, 11, 0, 13, 9, 0, 4, 11, 0, 1, 8, 0, 2, 7, 0, 4, 8,
          0, 0, 5, 0, 0, 6, 0, 0, 5, 0, 1, 6, 0, 9, 4, 0] :=
  ⟨_, _, rfl, by decide +kernel⟩

/-- All later rows start behind the numerals. -/
theorem directionTable_rows :
    ∃ later, directionTable.rows.toList = firstRows
      ++ readClasses 58 later := by
  obtain ⟨line, lines, htable, hline⟩ := directionTable_line
  refine ⟨0 :: Unicode.numbers lines, ?_⟩
  rw [htable, Classes.rows_ofLines_cons, hline]
  rfl

/-- The rows of the table that reach a numeral have its class. -/
theorem class_of_row {row : Nat × Nat × Nat} {n : Nat}
    (hrow : row ∈ directionTable.rows.toList) (hfirst : row.1 ≤ n)
    (hlast : n ≤ row.2.1) (hlow : 48 ≤ n) (hhigh : n ≤ 57) : row.2.2 = 4 := by
  obtain ⟨later, hrows⟩ := directionTable_rows
  rw [hrows] at hrow
  rcases List.mem_append.mp hrow with hnear | hfar
  · have hall : ∀ row ∈ firstRows, 48 ≤ row.2.1 → row.2.2 = 4 := by decide
    exact hall row hnear (Nat.le_trans hlow hlast)
  · have hbehind := le_of_mem_readClasses hfar
    omega

theorem range_of_isDigit {c : Char} (h : c.isDigit = true) :
    48 ≤ c.toNat ∧ c.toNat ≤ 57 := by
  simpa [Char.isDigit, UInt32.le_iff_toNat_le] using h

/-- Numerals leave a name as it runs. -/
theorem not_isRightward_of_isDigit {c : Char} (h : c.isDigit = true) :
    (direction c).isRightward = false := by
  have hrange := range_of_isDigit h
  unfold direction
  by_cases hzero : directionTable.of c = 0
  · rw [hzero]
    rfl
  · obtain ⟨row, hrow, hfirst, hlast, hclass⟩ := Classes.exists_row hzero
    rw [← hclass, class_of_row hrow hfirst hlast hrange.1 hrange.2]
    rfl

-- ========================================================== characters

/-- The character stands in a name in ASCII form. -/
def IsPlain (c : Char) : Prop := isAscii c = true ∧ isForbidden c = false

instance : DecidablePred IsPlain := fun c =>
  inferInstanceAs (Decidable (isAscii c = true ∧ isForbidden c = false))

theorem lowerAscii_of_isPlain {c : Char} (h : IsPlain c) :
    lowerAscii c = c := by
  have hlower : c.isUpper = false := by
    have hallowed := h.2
    simp only [isForbidden, Bool.or_eq_false_iff] at hallowed
    exact hallowed.1.2
  unfold lowerAscii
  rw [if_neg]
  rintro ⟨hfirst, hlast⟩
  have hupper : c.isUpper = true := decide_eq_true ⟨hfirst, hlast⟩
  rw [hlower] at hupper
  cases hupper

/-- A plain name is mapped to itself. -/
theorem mapped_of_isPlain {name : List Char} (h : ∀ c ∈ name, IsPlain c) :
    mapped name = some name := by
  unfold mapped
  rw [if_pos (List.all_eq_true.mpr fun c hc => (h c hc).1)]
  have hid := List.map_congr_left fun c hc => lowerAscii_of_isPlain (h c hc)
  rw [hid, List.map_id']

theorem isPlain_of_isDigit {c : Char} (h : c.isDigit = true) : IsPlain c := by
  have hrange := range_of_isDigit h
  exact of_ascii (P := fun c => c.isDigit = true → IsPlain c) (by decide)
    (by omega) h

/-- What Punycode writes is plain and ends no label. -/
theorem isPlain_of_isDigit36 {c : Char} (h : Punycode.IsDigit36 c) :
    IsPlain c ∧ c ≠ '.' := by
  have hall : ∀ d < 36, IsPlain (Punycode.digitChar d)
      ∧ Punycode.digitChar d ≠ '.' := by decide
  obtain ⟨d, hd, rfl⟩ := h
  exact hall d hd

-- ============================================================== labels

variable {part label : List Char}

/-- A label holds the ASCII characters of its text and no others. -/
theorem mem_of_mem_readLabel {c : Char} (h : readLabel part = some label)
    (hc : c ∈ label) (hascii : isAscii c = true) : c ∈ part := by
  have hlt : c.toNat < 128 := of_decide_eq_true hascii
  unfold readLabel at h
  split at h
  · obtain ⟨hdecode, -⟩ := Option.filter_eq_some_iff.mp h
    rcases Punycode.of_mem_decode hdecode hc with hmem | hbeyond
    · exact List.mem_of_mem_drop hmem
    · omega
  · obtain rfl : part = label := Option.some.inj h
    exact hc

/-- What a label is written in is plain, if its text was allowed. -/
theorem isPlain_of_mem_writeLabel {c : Char}
    (hallowed : ∀ c ∈ part, isForbidden c = false ∧ c ≠ '.')
    (h : readLabel part = some label) (hc : c ∈ writeLabel label) :
    IsPlain c ∧ c ≠ '.' := by
  have hown : c ∈ label → isAscii c = true → IsPlain c ∧ c ≠ '.' := by
    intro hmem hascii
    have hpart := hallowed c (mem_of_mem_readLabel h hmem hascii)
    exact ⟨⟨hascii, hpart.1⟩, hpart.2⟩
  unfold writeLabel at hc
  split at hc
  · next hall => exact hown hc (List.all_eq_true.mp hall c hc)
  · rcases List.mem_append.mp hc with hmark | hcode
    · simp only [punycodeMark, List.mem_cons, List.not_mem_nil, or_false]
        at hmark
      rcases hmark with rfl | rfl | rfl | rfl <;>
        exact ⟨⟨rfl, rfl⟩, by decide⟩
    · rcases Punycode.of_mem_encode hcode with ⟨hmem, hlt⟩ | rfl | hdigit
      · exact hown hmem (decide_eq_true hlt)
      · exact ⟨⟨rfl, rfl⟩, by decide⟩
      · exact isPlain_of_isDigit36 hdigit

/-- A label that was read is read from what it is written in. -/
theorem readLabel_writeLabel (h : readLabel part = some label) :
    readLabel (writeLabel label) = some label := by
  unfold writeLabel
  by_cases hascii : label.all isAscii = true
  · rw [if_pos hascii]
    unfold readLabel at h
    split at h
    -- Punycode is not read as a label in ASCII.
    · obtain ⟨-, hbeyond⟩ := Option.filter_eq_some_iff.mp h
      rw [hascii] at hbeyond
      cases hbeyond
    · next hmark =>
        obtain rfl : part = label := Option.some.inj h
        exact if_neg hmark
  · have hmark : punycodeMark <+: punycodeMark ++ Punycode.encode label :=
      List.prefix_append _ _
    have hdrop : (punycodeMark ++ Punycode.encode label).drop 4
        = Punycode.encode label := rfl
    rw [if_neg hascii, readLabel,
      if_pos (List.isPrefixOf_iff_prefix.mpr hmark), hdrop,
      Punycode.decode_encode]
    exact Option.filter_eq_some_iff.mpr ⟨rfl, by simpa using hascii⟩

/-- A checked label is what its written form is read as. -/
theorem checkedLabel_writeLabel (h : checkedLabel part = some label) :
    checkedLabel (writeLabel label) = some label := by
  obtain ⟨hread, husable⟩ := Option.filter_eq_some_iff.mp h
  unfold checkedLabel
  rw [readLabel_writeLabel hread]
  exact Option.filter_eq_some_iff.mpr ⟨rfl, husable⟩

-- =============================================================== names

variable {name domain : List Char} {parts labels : List (List Char)}

/-- A plain name is in ASCII form when its labels, which are its parts as
they are read, are written as the parts. -/
theorem toAscii_intercalate (hne : parts ≠ [])
    (hplain : ∀ part ∈ parts, ∀ c ∈ part, IsPlain c ∧ c ≠ '.')
    (hlabels : parts.mapM checkedLabel = some labels)
    (hparts : labels.map writeLabel = parts)
    (hflow : labelsFlow labels = true) :
    toAscii (['.'].intercalate parts) = some (['.'].intercalate parts) := by
  have hall : ∀ c ∈ ['.'].intercalate parts, IsPlain c := by
    intro c hc
    rcases of_mem_intercalate hc with rfl | ⟨part, hpart, hmem⟩
    · exact ⟨rfl, rfl⟩
    · exact (hplain part hpart c hmem).1
  have hallowed : (['.'].intercalate parts).any isForbidden = false :=
    List.any_eq_false.mpr fun c hc => by simp [(hall c hc).2]
  have hsplit : Ipv4.splitOn '.' (['.'].intercalate parts) = parts :=
    splitOn_intercalate hne fun part hpart hdot =>
      (hplain part hpart '.' hdot).2 rfl
  unfold toAscii
  simp only [mapped_of_isPlain hall, Option.bind_eq_bind, Option.bind_some,
    hallowed, hsplit, hlabels, hflow, hparts]
  rfl

/-- How a name was brought into ASCII. -/
theorem exists_labels_of_toAscii (h : toAscii name = some domain) :
    ∃ text labels, text.any isForbidden = false
      ∧ (splitOn '.' text).mapM checkedLabel = some labels
      ∧ labelsFlow labels = true
      ∧ domain = ['.'].intercalate (labels.map writeLabel) := by
  unfold toAscii at h
  obtain ⟨text, -, h⟩ := Option.bind_eq_some_iff.mp h
  split at h
  · cases h
  · next hallowed =>
      obtain ⟨labels, hlabels, h⟩ := Option.bind_eq_some_iff.mp h
      split at h
      · next hflow =>
          obtain rfl := Option.some.inj h
          exact ⟨text, labels, by simpa using hallowed, hlabels, hflow, rfl⟩
      · cases h

/-- The written labels of an allowed text are plain and stand. -/
theorem labels_of_allowed {text : List Char} (h : text.any isForbidden = false)
    (hlabels : (splitOn '.' text).mapM checkedLabel = some labels) :
    ∀ label ∈ labels, checkedLabel (writeLabel label) = some label
      ∧ ∀ c ∈ writeLabel label, IsPlain c ∧ c ≠ '.' := by
  refine forall_mem_of_mapM hlabels fun part hpart label hlabel => ?_
  have hallowed : ∀ c ∈ part, isForbidden c = false ∧ c ≠ '.' := by
    intro c hc
    obtain ⟨hmem, hdot⟩ := mem_of_mem_splitOn hpart hc
    exact ⟨Bool.eq_false_iff.mpr (List.any_eq_false.mp h c hmem), hdot⟩
  obtain ⟨hread, -⟩ := Option.filter_eq_some_iff.mp hlabel
  exact ⟨checkedLabel_writeLabel hlabel,
    fun c hc => isPlain_of_mem_writeLabel hallowed hread hc⟩

/-- A name in ASCII form is plain. -/
theorem isPlain_of_mem_toAscii {c : Char} (h : toAscii name = some domain)
    (hc : c ∈ domain) : IsPlain c := by
  obtain ⟨text, labels, hallowed, hlabels, -, rfl⟩ :=
    exists_labels_of_toAscii h
  rcases of_mem_intercalate hc with rfl | ⟨part, hpart, hmem⟩
  · exact ⟨rfl, rfl⟩
  · obtain ⟨label, hlabel, rfl⟩ := List.mem_map.mp hpart
    exact ((labels_of_allowed hallowed hlabels label hlabel).2 c hmem).1

/-- What was brought into ASCII stays as it is. -/
theorem toAscii_toAscii (h : toAscii name = some domain) :
    toAscii domain = some domain := by
  obtain ⟨text, labels, hallowed, hlabels, hflow, rfl⟩ :=
    exists_labels_of_toAscii h
  have hstand := labels_of_allowed hallowed hlabels
  have hlength := length_of_mapM hlabels
  -- The written labels are the parts of the name now, and read as before.
  refine toAscii_intercalate ?_ ?_
    (mapM_map_of_forall fun label hl => (hstand label hl).1) rfl hflow
  · intro hnil
    rw [List.map_eq_nil_iff.mp hnil] at hlength
    exact splitOn_ne_nil '.' text (List.length_eq_zero_iff.mp hlength.symm)
  · intro part hpart
    obtain ⟨label, hlabel, rfl⟩ := List.mem_map.mp hpart
    exact (hstand label hlabel).2

/-- A label in plain ASCII that is no Punycode is read as it stands. -/
theorem checkedLabel_of_isAscii (hmark : punycodeMark.isPrefixOf label = false)
    (hascii : label.all isAscii = true) : checkedLabel label = some label := by
  have hread : readLabel label = some label := by
    unfold readLabel
    rw [hmark]
    rfl
  unfold checkedLabel
  rw [hread]
  refine Option.filter_eq_some_iff.mpr ⟨rfl, ?_⟩
  rw [isUsable, hascii]
  rfl

/-- Numerals with dots between them are in ASCII form. -/
theorem toAscii_of_digits (hne : parts ≠ [])
    (hdigits : ∀ part ∈ parts, ∀ c ∈ part, c.isDigit = true) :
    toAscii (['.'].intercalate parts) = some (['.'].intercalate parts) := by
  have hplain : ∀ part ∈ parts, ∀ c ∈ part, IsPlain c ∧ c ≠ '.' := by
    intro part hpart c hc
    have hdigit := hdigits part hpart c hc
    refine ⟨isPlain_of_isDigit hdigit, ?_⟩
    rintro rfl
    cases hdigit
  have hascii : ∀ part ∈ parts, part.all isAscii = true := fun part hpart =>
    List.all_eq_true.mpr fun c hc => (hplain part hpart c hc).1.1
  have hread : ∀ part ∈ parts, checkedLabel (id part) = some part := by
    intro part hpart
    refine checkedLabel_of_isAscii ?_ (hascii part hpart)
    cases part with
    | nil => rfl
    | cons c cs =>
        have hdigit := hdigits _ hpart c List.mem_cons_self
        have hletter : 'x' ≠ c := by
          rintro rfl
          cases hdigit
        simp [punycodeMark, List.isPrefixOf, hletter]
  have hlabels : parts.mapM checkedLabel = some parts := by
    have hmap := mapM_map_of_forall hread
    rwa [List.map_id] at hmap
  have hwrite : parts.map writeLabel = parts := by
    have hstand : ∀ part ∈ parts, writeLabel part = part :=
      fun part hpart => if_pos (hascii part hpart)
    rw [List.map_congr_left hstand, List.map_id']
  have hflow : labelsFlow parts = true := by
    have hnone : (parts.any fun label =>
        label.any fun c => (direction c).isRightward) = false := by
      refine List.any_eq_false.mpr fun part hpart => ?_
      rw [Bool.not_eq_true]
      refine List.any_eq_false.mpr fun c hc => ?_
      rw [Bool.not_eq_true]
      exact not_isRightward_of_isDigit (hdigits part hpart c hc)
    unfold labelsFlow
    rw [hnone]
    rfl
  exact toAscii_intercalate hne hplain hlabels hwrite hflow

end SchemaDocs.Url.Domain
