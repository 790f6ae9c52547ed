/-
IPv6 addresses are read back.

What is read of an address are eight pieces of sixteen bits
(`read_fits`). They are written in hexadecimal with colons between them,
and the first of the longest runs of zeros is left out between two colons
in a row. The reader finds these two colons where the writer put them,
since no piece is empty (`splitColons_writePieces`), and fills the gap
with as many zeros as there were, since the sides are read as they were
written and eight pieces are due (`read_write`).
-/
import Mathlib.Data.List.Basic
import SchemaDocs.Proofs.Url.Numeral
import SchemaDocs.Url.Ipv6

namespace SchemaDocs.Url.Ipv6

open Ipv4 (splitOn inBase)

-- ============================================================= reading

/-- Sixteen bits in each piece. -/
def Fits (pieces : List Nat) : Prop := ∀ piece ∈ pieces, piece < 65536

theorem Fits.append {left right : List Nat} (hl : Fits left)
    (hr : Fits right) :
    Fits (left ++ right) := by
  intro piece h
  rcases List.mem_append.mp h with h | h
  · exact hl piece h
  · exact hr piece h

/-- A piece that is read fits two bytes. -/
theorem piece?_lt {cs : List Char} {piece : Nat} (h : piece? cs = some piece) :
    piece < 65536 := by
  unfold piece? at h
  split at h
  · cases h
  · next hlength =>
      rw [not_or, Nat.not_lt] at hlength
      calc piece < 16 ^ cs.length := inBase_lt h
        _ ≤ 16 ^ 4 := Nat.pow_le_pow_right (by decide) hlength.2
        _ = 65536 := rfl

/-- A byte that is read fits one. -/
theorem byte?_lt {cs : List Char} {byte : Nat} (h : byte? cs = some byte) :
    byte < 256 := by
  unfold byte? at h
  split at h
  · cases h
  · cases h
  · exact of_decide_eq_true (Option.filter_eq_some_iff.mp h).2

/-- Four bytes make two pieces that fit. -/
theorem bytes?_fits {cs : List Char} {pieces : List Nat}
    (h : bytes? cs = some pieces) : Fits pieces := by
  unfold bytes? at h
  obtain ⟨bytes, hbytes, h⟩ := Option.bind_eq_some_iff.mp h
  have hlt := forall_mem_of_mapM hbytes fun _ _ _ => byte?_lt
  split at h
  · next a b c d =>
      simp only [List.forall_mem_cons] at hlt
      obtain ⟨ha, hb, hc, hd, -⟩ := hlt
      rw [← Option.some.inj h]
      exact List.forall_mem_cons.mpr
        ⟨by omega, List.forall_mem_singleton.mpr (by omega)⟩
  · cases h

/-- All pieces of a side fit. -/
theorem pieces?_fits {atEnd : Bool} {parts : List (List Char)}
    {pieces : List Nat} (h : pieces? atEnd parts = some pieces) :
    Fits pieces := by
  induction parts generalizing pieces with
  | nil =>
      obtain rfl : [] = pieces := Option.some.inj h
      exact fun _ hp => nomatch hp
  | cons part parts ih =>
      cases parts with
      | nil =>
          rw [pieces?] at h
          split at h
          · exact bytes?_fits h
          · obtain ⟨piece, hpiece, rfl⟩ := Option.map_eq_some_iff.mp h
            exact fun p hp => List.mem_singleton.mp hp ▸ piece?_lt hpiece
      | cons next parts =>
          rw [pieces?] at h
          · obtain ⟨piece, hpiece, h⟩ := Option.bind_eq_some_iff.mp h
            obtain ⟨rest, hrest, h⟩ := Option.bind_eq_some_iff.mp h
            rw [← Option.some.inj h]
            intro p hp
            rcases List.mem_cons.mp hp with rfl | hp
            · exact piece?_lt hpiece
            · exact ih hrest p hp
          · exact List.cons_ne_nil _ _

theorem side?_fits {atEnd : Bool} {cs : List Char} {pieces : List Nat}
    (h : side? atEnd cs = some pieces) : Fits pieces := by
  unfold side? at h
  split at h
  · obtain rfl : [] = pieces := Option.some.inj h
    exact fun _ hp => nomatch hp
  · exact pieces?_fits h

/-- An address has eight pieces. -/
theorem read_fits {cs : List Char} {pieces : List Nat}
    (h : read cs = some pieces) : pieces.length = 8 ∧ Fits pieces := by
  unfold read at h
  split at h
  · next before after _ =>
      obtain ⟨left, hleft, h⟩ := Option.bind_eq_some_iff.mp h
      obtain ⟨right, hright, h⟩ := Option.bind_eq_some_iff.mp h
      split at h
      · next hlt =>
          rw [← Option.some.inj h]
          refine ⟨?_,
            ((side?_fits hleft).append ?_).append (side?_fits hright)⟩
          · simp only [List.length_append, List.length_replicate]
            omega
          · intro p hp
            rw [(List.mem_replicate.mp hp).2]
            decide
      · cases h
  · obtain ⟨hside, hlength⟩ := Option.filter_eq_some_iff.mp h
    exact ⟨of_decide_eq_true hlength, side?_fits hside⟩

-- ============================================================= pieces

/-- A piece is written in hexadecimal digits. -/
theorem digit_of_mem_writePiece {c : Char} {piece : Nat}
    (h : c ∈ writePiece piece) : ∃ d < 16, c = Nat.digitChar d :=
  exists_digitChar_of_mem_toDigits (by decide) h

theorem not_mem_writePiece {c : Char}
    (hc : ∀ d < 16, c ≠ Nat.digitChar d) (piece : Nat) :
    c ∉ writePiece piece := by
  intro h
  obtain ⟨d, hd, rfl⟩ := digit_of_mem_writePiece h
  exact hc d hd rfl

theorem colon_not_mem_writePiece (piece : Nat) : ':' ∉ writePiece piece :=
  not_mem_writePiece (by decide) piece

/-- A piece is read from what it is written in. -/
theorem piece?_writePiece {piece : Nat} (h : piece < 65536) :
    piece? (writePiece piece) = some piece := by
  have hlength : (Nat.toDigits 16 piece).length ≤ 4 :=
    (Nat.length_toDigits_le_iff (by decide) (by decide)).mpr h
  have hne : (Nat.toDigits 16 piece).isEmpty ≠ true := by
    rw [Ne, List.isEmpty_iff]
    exact Nat.toDigits_ne_nil
  unfold piece? writePiece
  rw [if_neg (by rw [not_or, Nat.not_lt]; exact ⟨hne, hlength⟩)]
  exact inBase_toDigits (by decide) (by decide) piece

/-- Written pieces are read as they are. -/
theorem pieces?_map_writePiece {pieces : List Nat} (h : Fits pieces)
    (atEnd : Bool) : pieces? atEnd (pieces.map writePiece) = some pieces := by
  induction pieces with
  | nil => rfl
  | cons piece pieces ih =>
      have hpiece := piece?_writePiece (h piece List.mem_cons_self)
      have hrest := ih fun p hp => h p (List.mem_cons_of_mem _ hp)
      cases pieces with
      | nil =>
          have hdot : (writePiece piece).contains '.' = false := by
            rw [List.contains_eq_mem, decide_eq_false_iff_not]
            exact not_mem_writePiece (by decide) piece
          rw [List.map_singleton, pieces?, hdot, Bool.and_false, hpiece]
          rfl
      | cons next pieces =>
          rw [List.map_cons, List.map_cons, pieces?, hpiece]
          · rw [List.map_cons] at hrest
            rw [hrest]
            rfl
          · exact List.cons_ne_nil _ _

/-- Written pieces start with a digit. -/
theorem exists_cons_writePieces (piece : Nat) (pieces : List Nat) :
    ∃ c cs, writePieces (piece :: pieces) = c :: cs ∧ c ≠ ':' := by
  obtain ⟨c, cs, hcs⟩ := List.exists_cons_of_ne_nil
    (Nat.toDigits_ne_nil (b := 16) (n := piece))
  have hpiece : writePiece piece = c :: cs := hcs
  have hc : c ≠ ':' := by
    rintro rfl
    exact colon_not_mem_writePiece piece (hpiece ▸ List.mem_cons_self)
  unfold writePieces
  cases pieces with
  | nil =>
      rw [List.map_singleton, List.intercalate_singleton, hpiece]
      exact ⟨c, cs, rfl, hc⟩
  | cons next pieces =>
      rw [List.map_cons, List.map_cons, List.intercalate_cons_cons, hpiece]
      exact ⟨c, _, rfl, hc⟩

/-- The pieces of a side are read back, whether the address ends there or
not. -/
theorem side?_writePieces {pieces : List Nat} (h : Fits pieces)
    (atEnd : Bool) :
    side? atEnd (writePieces pieces) = some pieces := by
  cases pieces with
  | nil => rfl
  | cons piece pieces =>
      have hne : (writePieces (piece :: pieces)).isEmpty ≠ true := by
        obtain ⟨c, cs, hcs, -⟩ := exists_cons_writePieces piece pieces
        rw [hcs]
        exact Bool.false_ne_true
      have hsplit : splitOn ':' (writePieces (piece :: pieces))
          = (piece :: pieces).map writePiece := by
        refine splitOn_intercalate (List.cons_ne_nil _ _) fun part hpart => ?_
        obtain ⟨p, -, rfl⟩ := List.mem_map.mp hpart
        exact colon_not_mem_writePiece p
      unfold side?
      rw [if_neg hne, hsplit]
      exact pieces?_map_writePiece h atEnd

-- ========================================================== two colons

/-- Two colons are not looked for among digits. -/
theorem splitColons_append {digits : List Char} (h : ':' ∉ digits)
    (rest : List Char) :
    splitColons (digits ++ rest)
      = (splitColons rest).map fun split => (digits ++ split.1, split.2) := by
  induction digits with
  | nil => simp
  | cons c digits ih =>
      rw [List.mem_cons, not_or] at h
      rw [List.cons_append, splitColons, ih h.2, Option.map_map]
      · rfl
      · intro _ hc
        exact absurd hc.symm h.1

/-- A colon alone does not split an address. -/
theorem splitColons_colon {c : Char} (h : c ≠ ':') (cs : List Char) :
    splitColons (':' :: c :: cs)
      = (splitColons (c :: cs)).map fun split =>
        (':' :: split.1, split.2) := by
  rw [splitColons]
  intro _ _ hc
  exact absurd (List.cons.inj hc).1 h

/-- Two colons in a row stand where a gap was written, and nowhere else. -/
theorem splitColons_writePieces (pieces : List Nat) (rest : List Char) :
    splitColons (writePieces pieces ++ rest)
      = (splitColons rest).map fun split =>
          (writePieces pieces ++ split.1, split.2) := by
  induction pieces with
  | nil => simp [writePieces]
  | cons piece pieces ih =>
      have hdigits := splitColons_append (colon_not_mem_writePiece piece)
      cases pieces with
      | nil =>
          have hone : writePieces [piece] = writePiece piece :=
            List.intercalate_singleton
          rw [hone]
          exact hdigits rest
      | cons next pieces =>
          have hmore : writePieces (piece :: next :: pieces)
              = writePiece piece ++ ':' :: writePieces (next :: pieces) := by
            unfold writePieces
            rw [List.map_cons, List.map_cons, List.intercalate_cons_cons,
              List.append_assoc]
            rfl
          obtain ⟨c, cs, hcs, hc⟩ := exists_cons_writePieces next pieces
          rw [hmore, List.append_assoc, hdigits, List.cons_append]
          rw [hcs] at ih ⊢
          rw [List.cons_append, splitColons_colon hc, ← List.cons_append, ih,
            Option.map_map, Option.map_map]
          simp [Function.comp_def]

-- ================================================================ zeros

/-- A list starts with as many zeros as were counted. -/
theorem replicate_zeros_append (pieces : List Nat) :
    List.replicate (zeros pieces) 0
      ++ pieces.drop (zeros pieces) = pieces := by
  induction pieces with
  | nil => rfl
  | cons piece pieces ih =>
      unfold zeros at ih ⊢
      by_cases hpiece : piece = 0
      · subst hpiece
        simpa [List.replicate_succ] using ih
      · simp [hpiece]

theorem zeros_le_length (pieces : List Nat) : zeros pieces ≤ pieces.length :=
  (List.takeWhile_sublist _).length_le

/-- The longest run is the one to beat, or starts at some piece. -/
theorem longestRun_eq (place : Nat) (best : Nat × Nat) (pieces : List Nat) :
    longestRun place best pieces = best
      ∨ ∃ skipped, longestRun place best pieces
        = (place + skipped, zeros (pieces.drop skipped)) := by
  induction pieces generalizing place best with
  | nil => exact .inl rfl
  | cons piece pieces ih =>
      rw [longestRun]
      rcases ih (place + 1)
        (if best.2 < zeros (piece :: pieces) then
          (place, zeros (piece :: pieces)) else best) with h | ⟨skipped, h⟩
      · rw [h]
        split
        · exact .inr ⟨0, rfl⟩
        · exact .inl rfl
      · refine .inr ⟨skipped + 1, ?_⟩
        rw [h, List.drop_succ_cons, Nat.add_right_comm, Nat.add_assoc]

-- ============================================================= writing

/-- A written address is read as the address. -/
theorem read_write {pieces : List Nat} (hlength : pieces.length = 8)
    (h : Fits pieces) : read (write pieces) = some pieces := by
  unfold write
  rcases hrun : longestRun 0 (0, 1) pieces with ⟨place, run⟩
  simp only []
  split
  · have hnone : splitColons (writePieces pieces) = none := by
      have hsplit := splitColons_writePieces pieces []
      rwa [List.append_nil] at hsplit
    unfold read
    rw [hnone]
    simp only []
    rw [side?_writePieces h]
    simp [hlength]
  · next hlong =>
      have hgap : run = zeros (pieces.drop place) := by
        rcases longestRun_eq 0 (0, 1) pieces with hbest | ⟨skipped, hsome⟩
        · rw [hrun] at hbest
          have : run = 1 := congrArg Prod.snd hbest
          omega
        · rw [hrun, Nat.zero_add] at hsome
          obtain ⟨rfl, rfl⟩ := Prod.mk.inj hsome
          rfl
      have hzeros := replicate_zeros_append (pieces.drop place)
      have hle := zeros_le_length (pieces.drop place)
      rw [← hgap, List.drop_drop] at hzeros
      rw [← hgap, List.length_drop, hlength] at hle
      have hleft : Fits (pieces.take place) :=
        fun p hp => h p (List.mem_of_mem_take hp)
      have hright : Fits (pieces.drop (place + run)) :=
        fun p hp => h p (List.mem_of_mem_drop hp)
      have hsplit : splitColons (writePieces (pieces.take place)
          ++ ':' :: ':' :: writePieces (pieces.drop (place + run)))
          = some (writePieces (pieces.take place),
              writePieces (pieces.drop (place + run))) := by
        rw [splitColons_writePieces, splitColons]
        simp
      unfold read
      rw [hsplit]
      simp only [side?_writePieces hleft, side?_writePieces hright,
        Option.bind_eq_bind, Option.bind_some, List.length_take,
        List.length_drop, hlength]
      rw [if_pos (by omega)]
      have hfill : 8 - min place 8 - (8 - (place + run)) = run := by omega
      rw [hfill, List.append_assoc, hzeros, List.take_append_drop]

/-- Pieces are written in hexadecimal digits and colons. -/
theorem of_mem_writePieces {c : Char} {pieces : List Nat}
    (h : c ∈ writePieces pieces) :
    c = ':' ∨ ∃ d < 16, c = Nat.digitChar d := by
  rcases of_mem_intercalate h with hcolon | ⟨part, hpart, hc⟩
  · exact .inl hcolon
  · obtain ⟨piece, -, rfl⟩ := List.mem_map.mp hpart
    exact .inr (digit_of_mem_writePiece hc)

/-- A written address holds hexadecimal digits and colons. -/
theorem of_mem_write {c : Char} {pieces : List Nat} (h : c ∈ write pieces) :
    c = ':' ∨ ∃ d < 16, c = Nat.digitChar d := by
  unfold write at h
  simp only [] at h
  split at h
  · exact of_mem_writePieces h
  · simp only [List.mem_append, List.mem_cons] at h
    rcases h with hleft | rfl | rfl | hright
    · exact of_mem_writePieces hleft
    · exact .inl rfl
    · exact .inl rfl
    · exact of_mem_writePieces hright

end SchemaDocs.Url.Ipv6
