/-
A host that was read is read again.

The hosts that come out of reading are of three kinds (`Host.Read`): a
name in ASCII form that does not end in a number, an address of four
bytes, and an address of eight pieces. Each is written in such a way that
the reader takes it for a host of its kind and reads the same host from
it (`read_write`). An address of four bytes passes for a name before it
is looked at as a number, and so has to be in ASCII form as well.

No character of a written host but the colons and the brackets of an
address could not stand in a name (`of_mem_write`).
-/
import SchemaDocs.Proofs.Url.Domain
import SchemaDocs.Proofs.Url.Ipv4
import SchemaDocs.Proofs.Url.Ipv6
import SchemaDocs.Url.Host

namespace SchemaDocs.Url.Host

open Domain (toAscii IsPlain toAscii_toAscii isPlain_of_mem_toAscii
  isPlain_of_isDigit toAscii_of_digits)

variable {text : List Char} {host : Host}

-- ============================================================= reading

/-- The host is one that may have been read. -/
inductive Read : Host → Prop
  | name {domain : List Char} (hascii : toAscii domain = some domain)
      (hne : domain ≠ []) (hend : Ipv4.endsInNumber domain = false) :
      Read (.name domain)
  | ipv4 {address : Nat} (hlt : address < Ipv4.valuesOf 4) :
      Read (.ipv4 address)
  | ipv6 {pieces : List Nat} (hlength : pieces.length = 8)
      (hfits : Ipv6.Fits pieces) : Read (.ipv6 pieces)

/-- In brackets there is an address of eight pieces. -/
theorem read_of_readBracketed (h : readBracketed text = .ok host) :
    Read host := by
  unfold readBracketed at h
  split at h
  · next pieces hpieces =>
      obtain ⟨inner, -, hread⟩ := Option.bind_eq_some_iff.mp hpieces
      obtain ⟨hlength, hfits⟩ := Ipv6.read_fits hread
      obtain rfl := Except.ok.inj h
      exact .ipv6 hlength hfits
  · cases h

/-- Whatever is read is a host of one of the three kinds. -/
theorem read_of_read (h : read text = .ok host) : Read host := by
  unfold read at h
  split at h
  · exact read_of_readBracketed h
  · split at h
    · cases h
    · cases h
    · next domain hne hdomain =>
        obtain ⟨name, -, hascii⟩ := Option.bind_eq_some_iff.mp hdomain
        split at h
        · split at h
          · next address haddress =>
              obtain rfl := Except.ok.inj h
              exact .ipv4 (Ipv4.read_lt haddress)
          · cases h
        · next hend =>
            obtain rfl := Except.ok.inj h
            exact .name (toAscii_toAscii hascii) (fun hnil => hne hnil)
              (Bool.eq_false_iff.mpr hend)

-- ============================================================= writing

/-- Plain characters hold no escape. -/
theorem unescape_of_isPlain (h : ∀ c ∈ text, IsPlain c) :
    unescape text = some text := by
  have hpercent : text.contains '%' = false := by
    rw [List.contains_eq_mem, decide_eq_false_iff_not]
    intro hmem
    cases (h '%' hmem).2
  unfold unescape
  rw [hpercent]
  rfl

/-- A name in ASCII form reaches the question whether it ends in a number. -/
theorem read_of_toAscii (h : toAscii text = some text) (hne : text ≠ []) :
    read text =
      if Ipv4.endsInNumber text then
        match Ipv4.read text with
        | some address => .ok (.ipv4 address)
        | none => .error .ipv4
      else .ok (.name text) := by
  have hplain : ∀ c ∈ text, IsPlain c :=
    fun c hc => isPlain_of_mem_toAscii h hc
  have hhead : text.head? ≠ some '[' := by
    intro hbracket
    cases (hplain '[' (List.mem_of_head? hbracket)).2
  unfold read
  rw [if_neg hhead, unescape_of_isPlain hplain, Option.bind_some, h]
  cases text with
  | nil => exact absurd rfl hne
  | cons c cs => rfl

/-- An address of four bytes passes for a name. -/
theorem toAscii_write_ipv4 (address : Nat) :
    toAscii (Ipv4.write address) = some (Ipv4.write address) := by
  rw [Ipv4.write_eq]
  refine toAscii_of_digits (List.cons_ne_nil _ _) fun part hpart c hc => ?_
  obtain ⟨byte, -, rfl⟩ := List.mem_map.mp hpart
  exact Nat.isDigit_of_mem_toDigits (by decide) (by decide) hc

/-- What is put in brackets is found in them. -/
theorem bracketed?_brackets (cs : List Char) :
    bracketed? ('[' :: (cs ++ [']'])) = some cs := by
  simp only [bracketed?, List.getLast?_concat, if_true, List.dropLast_concat]

/-- A written host is read as the host. -/
theorem read_write (h : Read host) : read host.write = .ok host := by
  cases h with
  | name hascii hne hend =>
      rw [write, read_of_toAscii hascii hne, hend]
      rfl
  -- Read as a name first: its last part is a number, so it is an address.
  | ipv4 hlt =>
      rw [write, read_of_toAscii (toAscii_write_ipv4 _) (Ipv4.write_ne_nil _),
        if_pos (Ipv4.endsInNumber_write _), Ipv4.read_write hlt]
  | ipv6 hlength hfits =>
      rw [write, read, List.head?_cons, if_pos rfl, readBracketed,
        bracketed?_brackets, Option.bind_some, Ipv6.read_write hlength hfits]

theorem write_ne_nil (h : Read host) : host.write ≠ [] := by
  cases h with
  | name _ hne _ => exact hne
  | ipv4 _ => exact Ipv4.write_ne_nil _
  | ipv6 _ _ => exact List.cons_ne_nil _ _

-- ========================================================== characters

theorem isPlain_digitChar {d : Nat} (h : d < 16) :
    IsPlain (Nat.digitChar d) := by
  have hall : ∀ d < 16, IsPlain (Nat.digitChar d) := by decide
  exact hall d h

/-- The characters of a written host are plain, but for the signs of an
address. -/
theorem of_mem_write (h : Read host) {c : Char} (hc : c ∈ host.write) :
    IsPlain c ∨ c = '[' ∨ c = ':' ∨ c = ']' := by
  cases h with
  | name hascii _ _ => exact .inl (isPlain_of_mem_toAscii hascii hc)
  | ipv4 _ =>
      exact .inl (isPlain_of_mem_toAscii (toAscii_write_ipv4 _) hc)
  | ipv6 _ _ =>
      rw [write, List.mem_cons, List.mem_append, List.mem_singleton] at hc
      rcases hc with hopen | hinner | hclose
      · exact .inr (.inl hopen)
      · rcases Ipv6.of_mem_write hinner with hcolon | ⟨d, hd, rfl⟩
        · exact .inr (.inr (.inl hcolon))
        · exact .inl (isPlain_digitChar hd)
      · exact .inr (.inr (.inr hclose))

end SchemaDocs.Url.Host
