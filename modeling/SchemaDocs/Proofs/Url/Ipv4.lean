/-
IPv4 addresses are read back.

However the address of a host was written, what is read of it fits four
bytes (`read_lt`), and what is written of that is four decimal numbers.
They are read as the address again (`read_write`), and their last digits
make sure that they are taken for an address at all
(`endsInNumber_write`).
-/
import SchemaDocs.Proofs.Url.Numeral

namespace SchemaDocs.Url.Ipv4

-- ============================================================= reading

/-- Bytes make a number below the bound that their count sets. -/
theorem foldl_lt {bytes : List Nat} (h : ∀ byte ∈ bytes, byte < 256) :
    ∀ start, bytes.foldl (fun value byte => value * 256 + byte) start
      < (start + 1) * valuesOf bytes.length := by
  induction bytes with
  | nil =>
      intro start
      simp [valuesOf]
  | cons byte bytes ih =>
      intro start
      have hbyte := h byte List.mem_cons_self
      calc List.foldl (fun value byte => value * 256 + byte)
            (start * 256 + byte) bytes
          < (start * 256 + byte + 1) * valuesOf bytes.length :=
            ih (fun b hb => h b (List.mem_cons_of_mem _ hb)) _
        _ ≤ (start + 1) * 256 * valuesOf bytes.length :=
            Nat.mul_le_mul_right _ (by omega)
        _ = (start + 1) * valuesOf (bytes.length + 1) := by
            rw [valuesOf, Nat.mul_assoc]

/-- Bytes before and behind multiply their values. -/
theorem valuesOf_add (m n : Nat) :
    valuesOf (m + n) = valuesOf m * valuesOf n := by
  induction m with
  | zero => simp [valuesOf]
  | succ m ih => rw [Nat.succ_add, valuesOf, valuesOf, ih, Nat.mul_assoc]

/-- Bytes in front and a number in the places that are left fit four bytes. -/
theorem assemble_lt {bytes : List Nat} {last : Nat}
    (hlength : bytes.length ≤ 4)
    (hbytes : ∀ byte ∈ bytes, byte < 256)
    (hlast : last < valuesOf (4 - bytes.length)) :
    assemble bytes last < valuesOf 4 := by
  have hfront := foldl_lt hbytes 0
  rw [Nat.zero_add, Nat.one_mul] at hfront
  have hsplit : valuesOf 4
      = valuesOf bytes.length * valuesOf (4 - bytes.length) := by
    rw [← valuesOf_add, Nat.add_sub_cancel' hlength]
  unfold assemble
  generalize bytes.foldl (fun value byte => value * 256 + byte) 0 = front
    at hfront ⊢
  calc front * valuesOf (4 - bytes.length) + last
      < front * valuesOf (4 - bytes.length) + valuesOf (4 - bytes.length) :=
        Nat.add_lt_add_left hlast _
    _ = (front + 1) * valuesOf (4 - bytes.length) := (Nat.succ_mul _ _).symm
    _ ≤ valuesOf bytes.length * valuesOf (4 - bytes.length) :=
        Nat.mul_le_mul_right _ hfront
    _ = valuesOf 4 := hsplit.symm

/-- No address is larger than four bytes. -/
theorem read_lt {host : List Char} {address : Nat}
    (h : read host = some address) : address < valuesOf 4 := by
  unfold read at h
  obtain ⟨numbers, -, h⟩ := Option.bind_eq_some_iff.mp h
  obtain ⟨last, -, h⟩ := Option.bind_eq_some_iff.mp h
  simp only [] at h
  split at h
  · next hfit =>
      obtain ⟨hlength, hbytes, hlast⟩ := hfit
      rw [← Option.some.inj h]
      refine assemble_lt ?_ ?_ hlast
      · rw [List.length_dropLast]
        omega
      · exact fun byte hb =>
        of_decide_eq_true (List.all_eq_true.mp hbytes byte hb)
  · cases h

-- ============================================================= writing

/-- The byte of an address at a place, counted from the end. -/
def byteAt (address place : Nat) : Nat := address / valuesOf place % 256

/-- The four bytes of an address. -/
def bytesOf (address : Nat) : List Nat :=
  [byteAt address 3, byteAt address 2, byteAt address 1, byteAt address 0]

/-- An address is written as its bytes with dots between them. -/
theorem write_eq (address : Nat) :
    write address
      = ['.'].intercalate ((bytesOf address).map (Nat.toDigits 10)) := by
  simp [write, bytesOf, byteAt, List.intercalate_cons_cons]

/-- A byte that is written in decimal digits is read as a number. -/
theorem number?_toDigits {byte : Nat} (h : byte < 256) :
    number? (Nat.toDigits 10 byte) = some byte := by
  have hall : ∀ byte < 256, number? (Nat.toDigits 10 byte) = some byte := by
    decide +kernel
  exact hall byte h

theorem byteAt_lt (address place : Nat) : byteAt address place < 256 :=
  Nat.mod_lt _ (by decide)

theorem lt_of_mem_bytesOf {address byte : Nat} (h : byte ∈ bytesOf address) :
    byte < 256 := by
  simp only [bytesOf, List.mem_cons, List.not_mem_nil, or_false] at h
  rcases h with rfl | rfl | rfl | rfl <;> exact byteAt_lt _ _

/-- No dot stands in a number. -/
theorem dot_not_mem_toDigits (n : Nat) : '.' ∉ Nat.toDigits 10 n := by
  intro h
  exact absurd (Nat.isDigit_of_mem_toDigits (by decide) (by decide) h)
    (by decide)

/-- A written address comes apart into the digits of its bytes. -/
theorem parts_write (address : Nat) :
    parts (write address) = (bytesOf address).map (Nat.toDigits 10) := by
  have hsplit : splitOn '.' (write address)
      = (bytesOf address).map (Nat.toDigits 10) := by
    rw [write_eq]
    refine splitOn_intercalate (List.cons_ne_nil _ _) fun part hpart => ?_
    obtain ⟨byte, -, rfl⟩ := List.mem_map.mp hpart
    exact dot_not_mem_toDigits byte
  obtain ⟨digit, digits, hlast⟩ := List.exists_cons_of_ne_nil
    (Nat.toDigits_ne_nil (b := 10) (n := byteAt address 0))
  unfold parts
  rw [hsplit]
  simp only [bytesOf, List.map_cons, List.map_nil, List.reverse_cons,
    List.reverse_nil, List.nil_append, List.cons_append]
  rw [hlast]
  rfl

/-- Four bytes put together are the address that they are the bytes of. -/
theorem assemble_bytesOf {address : Nat} (h : address < valuesOf 4) :
    assemble [byteAt address 3, byteAt address 2, byteAt address 1]
      (byteAt address 0) = address := by
  simp only [assemble, byteAt, valuesOf, List.foldl_cons, List.foldl_nil,
    List.length_cons, List.length_nil] at h ⊢
  omega

/-- A written address is read as the address. -/
theorem read_write {address : Nat} (h : address < valuesOf 4) :
    read (write address) = some address := by
  have hnumbers : (parts (write address)).mapM number?
      = some (bytesOf address) := by
    rw [parts_write]
    simp only [bytesOf, List.map_cons, List.map_nil, List.mapM_cons,
      List.mapM_nil, number?_toDigits (byteAt_lt _ _)]
    rfl
  have hfit : (bytesOf address).length ≤ 4
      ∧ (bytesOf address).dropLast.all (· < 256) = true
      ∧ byteAt address 0
        < valuesOf (4 - (bytesOf address).dropLast.length) := by
    refine ⟨Nat.le_refl _, List.all_eq_true.mpr fun byte hb => ?_,
      byteAt_lt _ _⟩
    exact decide_eq_true (lt_of_mem_bytesOf (List.dropLast_subset _ hb))
  have hlast : (bytesOf address).getLast? = some (byteAt address 0) := rfl
  unfold read
  simp only [hnumbers, Option.bind_eq_bind, Option.bind_some, hlast]
  rw [if_pos hfit]
  exact congrArg some (assemble_bytesOf h)

/-- A written address is taken for one. -/
theorem endsInNumber_write (address : Nat) :
    endsInNumber (write address) = true := by
  have hne : (Nat.toDigits 10 (byteAt address 0)).isEmpty = false := by
    rw [List.isEmpty_eq_false_iff]
    exact Nat.toDigits_ne_nil
  have hdigits : (Nat.toDigits 10 (byteAt address 0)).all Char.isDigit
    = true :=
    List.all_eq_true.mpr fun c hc =>
      Nat.isDigit_of_mem_toDigits (by decide) (by decide) hc
  have hlast : (parts (write address)).getLast?
      = some (Nat.toDigits 10 (byteAt address 0)) := by
    rw [parts_write]
    rfl
  unfold endsInNumber
  rw [hlast]
  simp only [hne, hdigits]
  rfl

theorem write_ne_nil (address : Nat) : write address ≠ [] := by
  simp [write]

end SchemaDocs.Url.Ipv4
