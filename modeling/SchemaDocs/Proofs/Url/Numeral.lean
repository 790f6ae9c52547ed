/-
Numbers and parts in hosts.

An address is written as numbers with a character between them, and read
by splitting at the character and reading the parts. Two facts make the
reader undo the writer: digits of a base up to sixteen are read as the
number that they write (`inBase_toDigits`), and parts that do not hold
the character come apart as they were put together
(`splitOn_intercalate`).
-/
import Mathlib.Algebra.Group.Nat.Defs
import Mathlib.Data.List.Basic
import Mathlib.Data.Nat.Init
import SchemaDocs.Url.Ipv4

namespace SchemaDocs.Url

open Ipv4 (splitOn inBase)

-- ============================================================== digits

/-- A digit is read back, up to base sixteen. -/
theorem hexDigit?_digitChar {d : Nat} (h : d < 16) :
    Text.hexDigit? (Nat.digitChar d) = some d := by
  have hall : ∀ d < 16, Text.hexDigit? (Nat.digitChar d) = some d := by decide
  exact hall d h

/-- A digit at the end counts once, and what is before it `base` times. -/
theorem inBase_append_digit {base d : Nat} (hd : d < base) (hbase : base ≤ 16)
    (cs : List Char) :
    inBase base (cs ++ [Nat.digitChar d])
      = (inBase base cs).map (· * base + d) := by
  have hdigit := hexDigit?_digitChar (Nat.lt_of_lt_of_le hd hbase)
  cases hcs : inBase base cs with
  | none =>
      unfold inBase at hcs ⊢
      rw [List.foldlM_append, hcs]
      rfl
  | some n =>
      unfold inBase at hcs ⊢
      rw [List.foldlM_append, hcs]
      simp [hdigit, hd]

/-- The digits of a number are read as the number. -/
theorem inBase_toDigits {base : Nat} (hlow : 1 < base) (hhigh : base ≤ 16)
    (n : Nat) : inBase base (Nat.toDigits base n) = some n := by
  induction n using Nat.strongRecOn with
  | ind n ih =>
      by_cases hn : n < base
      · have h := inBase_append_digit hn hhigh []
        rw [Nat.toDigits_of_lt_base hn]
        simpa [inBase] using h
      · have hle : base ≤ n := Nat.le_of_not_lt hn
        have hmod : n % base < base := Nat.mod_lt n (by omega)
        have hlt : n / base < n := Nat.div_lt_self (by omega) hlow
        rw [Nat.toDigits_of_base_le hlow hle,
          inBase_append_digit hmod hhigh, ih _ hlt, Option.map_some,
          Nat.div_add_mod']

/-- Written numbers hold digits of their base. -/
theorem exists_digitChar_of_mem_toDigits {base n : Nat} {c : Char}
    (hbase : 1 < base) (h : c ∈ Nat.toDigits base n) :
    ∃ d < base, c = Nat.digitChar d := by
  induction n using Nat.strongRecOn with
  | ind n ih =>
      by_cases hn : n < base
      · rw [Nat.toDigits_of_lt_base hn] at h
        exact ⟨n, hn, List.mem_singleton.mp h⟩
      · have hle : base ≤ n := Nat.le_of_not_lt hn
        rw [Nat.toDigits_of_base_le hbase hle] at h
        rcases List.mem_append.mp h with h | h
        · exact ih _ (Nat.div_lt_self (by omega) hbase) h
        · exact ⟨_, Nat.mod_lt n (by omega), List.mem_singleton.mp h⟩

/-- So many digits write a number below that power of the base. -/
theorem inBase_lt {base n : Nat} {cs : List Char}
    (h : inBase base cs = some n) : n < base ^ cs.length := by
  -- The digits are folded from the left, so the induction is over every
  -- number to start from.
  have hfrom : ∀ (cs : List Char) (start n : Nat),
      cs.foldlM (fun n c => (Text.hexDigit? c).bind fun d =>
        if d < base then some (n * base + d) else none) start = some n →
      n < (start + 1) * base ^ cs.length := by
    intro cs
    induction cs with
    | nil =>
        intro start n h
        obtain rfl : start = n := Option.some.inj h
        simp
    | cons c cs ih =>
        intro start n h
        rw [List.foldlM_cons] at h
        obtain ⟨next, hnext, hrest⟩ := Option.bind_eq_some_iff.mp h
        obtain ⟨d, -, hd⟩ := Option.bind_eq_some_iff.mp hnext
        split at hd
        · next hlt =>
            obtain rfl : start * base + d = next := Option.some.inj hd
            have hstep : start * base + d + 1 ≤ (start + 1) * base := by
              rw [Nat.succ_mul]
              omega
            calc n < (start * base + d + 1) * base ^ cs.length := ih _ _ hrest
              _ ≤ (start + 1) * base * base ^ cs.length :=
                Nat.mul_le_mul_right _ hstep
              _ = (start + 1) * base ^ (cs.length + 1) := by
                rw [Nat.mul_assoc, Nat.pow_succ']
        · cases hd
  simpa using hfrom cs 0 n h

/-- What is read of a list is read of its items. -/
theorem forall_mem_of_mapM {α β : Type} {read : α → Option β} {P : β → Prop}
    {parts : List α} {all : List β} (h : parts.mapM read = some all)
    (hread : ∀ part ∈ parts, ∀ made, read part = some made → P made) :
    ∀ made ∈ all, P made := by
  induction parts generalizing all with
  | nil =>
      obtain rfl : [] = all := Option.some.inj h
      exact fun _ hm => nomatch hm
  | cons part parts ih =>
      rw [List.mapM_cons] at h
      obtain ⟨first, hfirst, h⟩ := Option.bind_eq_some_iff.mp h
      obtain ⟨rest, hrest, h⟩ := Option.bind_eq_some_iff.mp h
      obtain rfl : first :: rest = all := Option.some.inj h
      refine List.forall_mem_cons.mpr
        ⟨hread part List.mem_cons_self _ hfirst, ih hrest ?_⟩
      exact fun p hp => hread p (List.mem_cons_of_mem _ hp)

/-- Reading each part gives as many results as there are parts. -/
theorem length_of_mapM {α β : Type} {read : α → Option β} {parts : List α}
    {all : List β} (h : parts.mapM read = some all) :
    all.length = parts.length := by
  induction parts generalizing all with
  | nil =>
      obtain rfl : [] = all := Option.some.inj h
      rfl
  | cons part parts ih =>
      rw [List.mapM_cons] at h
      obtain ⟨first, -, h⟩ := Option.bind_eq_some_iff.mp h
      obtain ⟨rest, hrest, h⟩ := Option.bind_eq_some_iff.mp h
      obtain rfl : first :: rest = all := Option.some.inj h
      rw [List.length_cons, List.length_cons, ih hrest]

/-- Items that are read as they were written are read as a list. -/
theorem mapM_map_of_forall {α β : Type} {read : α → Option β} {write : β → α}
    {all : List β} (h : ∀ item ∈ all, read (write item) = some item) :
    (all.map write).mapM read = some all := by
  induction all with
  | nil => rfl
  | cons item all ih =>
      have hrest := ih fun i hi => h i (List.mem_cons_of_mem _ hi)
      rw [List.map_cons, List.mapM_cons, h item List.mem_cons_self, hrest]
      rfl

-- =============================================================== parts

theorem splitOn_of_not_mem {mark : Char} {cs : List Char} (h : mark ∉ cs) :
    splitOn mark cs = [cs] := by
  induction cs with
  | nil => rfl
  | cons c cs ih =>
      rw [List.mem_cons, not_or] at h
      rw [splitOn, if_neg (Ne.symm h.1), ih h.2]

/-- The first mark ends the first part. -/
theorem splitOn_append_mark {mark : Char} {part : List Char} (h : mark ∉ part)
    (rest : List Char) :
    splitOn mark (part ++ mark :: rest) = part :: splitOn mark rest := by
  induction part with
  | nil => rw [List.nil_append, splitOn, if_pos rfl]
  | cons c part ih =>
      rw [List.mem_cons, not_or] at h
      rw [List.cons_append, splitOn, if_neg (Ne.symm h.1), ih h.2]

/-- Parts come apart where they were put together. -/
theorem splitOn_intercalate {mark : Char} {parts : List (List Char)}
    (hne : parts ≠ []) (h : ∀ part ∈ parts, mark ∉ part) :
    splitOn mark ([mark].intercalate parts) = parts := by
  induction parts with
  | nil => exact absurd rfl hne
  | cons part parts ih =>
      have hpart := h part List.mem_cons_self
      cases parts with
      | nil =>
          rw [List.intercalate_singleton]
          exact splitOn_of_not_mem hpart
      | cons next parts =>
          rw [List.intercalate_cons_cons, List.append_assoc,
            List.singleton_append, splitOn_append_mark hpart,
            ih (List.cons_ne_nil _ _) fun p hp =>
              h p (List.mem_cons_of_mem _ hp)]

/-- What is put together holds the parts and the mark. -/
theorem of_mem_intercalate {mark c : Char} {parts : List (List Char)}
    (h : c ∈ [mark].intercalate parts) :
    c = mark ∨ ∃ part ∈ parts, c ∈ part := by
  induction parts with
  | nil => cases h
  | cons part parts ih =>
      cases parts with
      | nil =>
          rw [List.intercalate_singleton] at h
          exact .inr ⟨part, List.mem_cons_self, h⟩
      | cons next parts =>
          rw [List.intercalate_cons_cons, List.append_assoc,
            List.mem_append, List.singleton_append, List.mem_cons] at h
          rcases h with hpart | hmark | hrest
          · exact .inr ⟨part, List.mem_cons_self, hpart⟩
          · exact .inl hmark
          · rcases ih hrest with hmark | ⟨later, hlater, hc⟩
            · exact .inl hmark
            · exact .inr ⟨later, List.mem_cons_of_mem _ hlater, hc⟩

theorem splitOn_ne_nil (mark : Char) (cs : List Char) :
    splitOn mark cs ≠ [] := by
  cases cs with
  | nil => exact List.cons_ne_nil _ _
  | cons c cs =>
      rw [splitOn]
      split
      · exact List.cons_ne_nil _ _
      · split <;> exact List.cons_ne_nil _ _

/-- A part holds what the text holds, but for the mark. -/
theorem mem_of_mem_splitOn {mark c : Char} {cs part : List Char}
    (hpart : part ∈ splitOn mark cs) (hc : c ∈ part) : c ∈ cs ∧ c ≠ mark := by
  induction cs generalizing part with
  | nil =>
      rw [List.mem_singleton.mp hpart] at hc
      cases hc
  | cons d cs ih =>
      rw [splitOn] at hpart
      split at hpart
      · rcases List.mem_cons.mp hpart with rfl | hrest
        · cases hc
        · exact ⟨List.mem_cons_of_mem _ (ih hrest hc).1, (ih hrest hc).2⟩
      · next hd =>
          split at hpart
          · next first rest heq =>
              rcases List.mem_cons.mp hpart with rfl | hrest
              · rcases List.mem_cons.mp hc with rfl | hc
                · exact ⟨List.mem_cons_self, hd⟩
                · have := ih (heq ▸ List.mem_cons_self) hc
                  exact ⟨List.mem_cons_of_mem _ this.1, this.2⟩
              · have := ih (heq ▸ List.mem_cons_of_mem _ hrest) hc
                exact ⟨List.mem_cons_of_mem _ this.1, this.2⟩
          · next heq => exact absurd heq (splitOn_ne_nil mark cs)

end SchemaDocs.Url
