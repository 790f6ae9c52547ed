/-
A written authority is read again.

What stands before the host, the host itself and the port are told apart
by an at sign and a colon, and an authority ends where a path, a query or
a fragment starts. None of these signs gets into the parts, or only where
the reader looks past it: the colons of a user are before the last at
sign, and those of an address are inside brackets. So the parts that are
written are the parts that are read (`readAuthority_write`).
-/
import Mathlib.Data.List.Basic
import SchemaDocs.Proofs.Url.Host
import SchemaDocs.Proofs.Url.Percent
import SchemaDocs.Url.Authority

namespace SchemaDocs.Url

open Domain (IsPlain)

-- ============================================================= slicing

section Slicing

variable {front rest : List Char}

/-- A cut is made before the first character that asks for it. -/
theorem cut_append {p : Char → Bool} (hfront : ∀ c ∈ front, p c = false)
    (hrest : ∀ c ∈ rest.head?, p c = true) :
    cut p (front ++ rest) = (front, rest) := by
  have htake : rest.takeWhile (fun c => !p c) = [] := by
    cases rest with
    | nil => rfl
    | cons c cs => simp [hrest c rfl]
  have hdrop : rest.dropWhile (fun c => !p c) = rest := by
    cases rest with
    | nil => rfl
    | cons c cs => simp [hrest c rfl]
  have hpass : ∀ c ∈ front, (!p c) = true := by
    intro c hc
    rw [hfront c hc]
    rfl
  unfold cut
  rw [List.takeWhile_append_of_pos hpass, List.dropWhile_append_of_pos hpass,
    htake, hdrop, List.append_nil]

/-- Without the mark there is nothing to split at. -/
theorem splitLast_of_not_mem {mark : Char} (h : mark ∉ rest) :
    splitLast mark rest = none := by
  unfold splitLast
  rw [if_neg]
  rwa [List.contains_eq_mem, decide_eq_true_eq]

/-- The last mark is the one behind which there is none. -/
theorem splitLast_append {mark : Char} (h : mark ∉ rest) :
    splitLast mark (front ++ mark :: rest) = some (front, rest) := by
  have hreverse : (front ++ mark :: rest).reverse
      = rest.reverse ++ mark :: front.reverse := by
    rw [List.reverse_append, List.reverse_cons, List.append_assoc]
    rfl
  have hpass : ∀ c ∈ rest.reverse, decide (c ≠ mark) = true := by
    intro c hc
    rw [decide_eq_true_eq]
    rintro rfl
    exact h (List.mem_reverse.mp hc)
  have hafter : ((front ++ mark :: rest).reverse.takeWhile (· ≠ mark)).reverse
      = rest := by
    rw [hreverse, List.takeWhile_append_of_pos hpass]
    simp
  have hlength : (front ++ mark :: rest).length - rest.length - 1
      = front.length := by
    rw [List.length_append, List.length_cons]
    omega
  unfold splitLast
  rw [if_pos (by simp)]
  simp only [hafter, hlength, List.take_left']

/-- Characters that neither open nor close nor end a host belong to it. -/
theorem cutHost_append {inside : Bool}
    (h : ∀ c ∈ front, c ≠ '[' ∧ c ≠ ']' ∧ (c = ':' → inside = true)) :
    cutHost inside (front ++ rest)
      = (front ++ (cutHost inside rest).1, (cutHost inside rest).2) := by
  induction front with
  | nil => rfl
  | cons c front ih =>
      obtain ⟨hopen, hclose, hcolon⟩ := h c List.mem_cons_self
      have hstay : (c = '[' || (c ≠ ']' && inside)) = inside := by
        simp [hopen, hclose]
      have hgo : ¬(c = ':' && !inside) = true := by
        intro hstop
        simp only [Bool.and_eq_true, decide_eq_true_eq,
          Bool.not_eq_true'] at hstop
        rw [hcolon hstop.1] at hstop
        cases hstop.2
      have hrest := ih fun d hd => h d (List.mem_cons_of_mem _ hd)
      rw [List.cons_append, cutHost, if_neg hgo, hstay, hrest]
      rfl

theorem ne_of_isPlain {c : Char} (h : IsPlain c) :
    c ≠ '[' ∧ c ≠ ']' ∧ c ≠ ':' := by
  refine ⟨?_, ?_, ?_⟩ <;> rintro rfl <;> cases h.2

/-- The host goes on through plain characters. -/
theorem cutHost_of_isPlain (hfront : ∀ c ∈ front, IsPlain c)
    (hrest : cutHost false rest = ([], rest)) :
    cutHost false (front ++ rest) = (front, rest) := by
  rw [cutHost_append, hrest, List.append_nil]
  intro c hc
  obtain ⟨hopen, hclose, hcolon⟩ := ne_of_isPlain (hfront c hc)
  exact ⟨hopen, hclose, fun h => absurd h hcolon⟩

/-- A written host ends where it was written to end. -/
theorem cutHost_write {host : Host} (h : host.Read)
    (hrest : cutHost false rest = ([], rest)) :
    cutHost false (host.write ++ rest) = (host.write, rest) := by
  cases h with
  | name hascii _ _ =>
      exact cutHost_of_isPlain
        (fun _ hc => Domain.isPlain_of_mem_toAscii hascii hc) hrest
  | ipv4 _ =>
      exact cutHost_of_isPlain (fun _ hc =>
        Domain.isPlain_of_mem_toAscii (Host.toAscii_write_ipv4 _) hc) hrest
  | @ipv6 pieces _ _ =>
      -- The opening bracket hides the colons of the pieces.
      have hinner : ∀ c ∈ Ipv6.write pieces,
          c ≠ '[' ∧ c ≠ ']' ∧ (c = ':' → true = true) := by
        intro c hc
        rcases Ipv6.of_mem_write hc with rfl | ⟨d, hd, rfl⟩
        · decide
        · obtain ⟨hopen, hclose, -⟩ :=
            ne_of_isPlain (Host.isPlain_digitChar hd)
          exact ⟨hopen, hclose, fun _ => rfl⟩
      have hclose : cutHost true (']' :: rest) = ([']'], rest) := by
        rw [cutHost, if_neg (by decide)]
        simp [hrest]
      rw [Host.write, List.cons_append, cutHost, if_neg (by decide)]
      simp only [List.append_assoc, List.singleton_append, decide_true,
        Bool.true_or, cutHost_append hinner, hclose]

end Slicing

-- =============================================================== users

section Users

variable {text : List Char} {c : Char}

/-- User information is written in what may stand there, and a colon. -/
theorem of_mem_writeUser (h : c ∈ writeUser text) :
    standsInUser c = true ∨ c = ':' := by
  unfold writeUser at h
  rcases List.mem_append.mp h with hname | hrest
  · exact .inl (stands_of_mem_escapeUnless keepsEscapes_user hname)
  · split at hrest
    · cases hrest
    · rcases List.mem_cons.mp hrest with hcolon | hpassword
      · exact .inr hcolon
      · exact .inl (stands_of_mem_escapeUnless keepsEscapes_user hpassword)

/-- A user is read as it was written. -/
theorem writeUser_writeUser (text : List Char) :
    writeUser (writeUser text) = writeUser text := by
  have hcut : ∀ name rest : List Char, (∀ d ∈ rest.head?, d = ':') →
      cut (· = ':') (escapeUnless standsInUser name ++ rest)
        = (escapeUnless standsInUser name, rest) := by
    intro name rest hrest
    refine cut_append (fun d hd => ?_) fun d hd => decide_eq_true (hrest d hd)
    rw [decide_eq_false_iff_not]
    rintro rfl
    cases stands_of_mem_escapeUnless keepsEscapes_user hd
  rw [writeUser.eq_def text]
  rcases cut (· = ':') text with ⟨name, rest⟩
  simp only []
  generalize rest.drop 1 = password
  cases password with
  | nil =>
      rw [writeUser, List.isEmpty_nil, if_pos rfl,
        hcut name [] (fun _ h => nomatch h)]
      simp [escapeUnless_escapeUnless keepsEscapes_user]
  | cons c password =>
      have hpassword : escapeUnless standsInUser (c :: password) ≠ [] :=
        fun hnil => nomatch escapeUnless_eq_nil.mp hnil
      have hcolon :
          ∀ d ∈ (':' :: escapeUnless standsInUser (c :: password)).head?,
            d = ':' := fun d hd => (Option.some.inj hd).symm
      rw [writeUser, List.isEmpty_cons, if_neg Bool.false_ne_true,
        hcut name _ hcolon]
      simp [escapeUnless_escapeUnless keepsEscapes_user, hpassword]

end Users

-- =============================================================== ports

/-- The port of an address with the colon before it. -/
def writePort : Option Nat → List Char
  | some port => ':' :: Nat.toDigits 10 port
  | none => []

/-- A port is written as a colon and digits. -/
theorem of_mem_writePort {port : Option Nat} {c : Char}
    (h : c ∈ writePort port) : c = ':' ∨ c.isDigit = true := by
  cases port with
  | none => cases h
  | some port =>
      rcases List.mem_cons.mp h with hcolon | hdigit
      · exact .inl hcolon
      · exact .inr (Nat.isDigit_of_mem_toDigits (by decide) (by decide) hdigit)

/-- A port that is read fits two bytes. -/
theorem lt_of_readPort {text : List Char} {port : Option Nat}
    (h : readPort text = .ok port) : ∀ p ∈ port, p < 65536 := by
  unfold readPort at h
  split at h
  · split at h
    · split at h
      · obtain rfl := Except.ok.inj h
        exact fun _ hp => nomatch hp
      · split at h
        · split at h
          · next hlt =>
              obtain rfl := Except.ok.inj h
              exact fun p hp => Option.some.inj hp ▸ hlt
          · cases h
        · cases h
    · cases h
  · obtain rfl := Except.ok.inj h
    exact fun _ hp => nomatch hp

/-- A port is read as it was written. -/
theorem readPort_writePort {port : Option Nat} (h : ∀ p ∈ port, p < 65536) :
    readPort (writePort port) = .ok port := by
  cases port with
  | none => rfl
  | some port =>
      have hdigits : (Nat.toDigits 10 port).all Char.isDigit = true :=
        List.all_eq_true.mpr fun c hc =>
          Nat.isDigit_of_mem_toDigits (by decide) (by decide) hc
      have hne : ¬(Nat.toDigits 10 port).isEmpty = true := by
        rw [List.isEmpty_iff]
        exact Nat.toDigits_ne_nil
      rw [writePort, readPort, if_pos hdigits, if_neg hne,
        inBase_toDigits (by decide) (by decide)]
      exact if_pos (h port rfl)

theorem cutHost_writePort (port : Option Nat) :
    cutHost false (writePort port) = ([], writePort port) := by
  cases port <;> rfl

-- ========================================================= authorities

/-- An authority as text. -/
def Authority.write (authority : Authority Host) : List Char :=
  (if authority.user.isEmpty then [] else authority.user ++ ['@'])
    ++ (authority.host.write ++ writePort authority.port)

/-- The character is visible, in ASCII, and ends no part of an address. -/
def IsInner (c : Char) : Prop :=
  0x20 < c.toNat ∧ c.toNat < 0x7F ∧ endsAuthority true c = false

instance : DecidablePred IsInner := fun c =>
  inferInstanceAs (Decidable (0x20 < c.toNat ∧ c.toNat < 0x7F
    ∧ endsAuthority true c = false))

/-- Plain characters end no authority. -/
theorem isInner_of_isPlain {c : Char} (h : IsPlain c) : IsInner c := by
  have hlt : c.toNat < 128 := of_decide_eq_true h.1
  exact Unicode.of_ascii (P := fun c => IsPlain c → IsInner c) (by decide)
    hlt h

theorem isInner_of_standsInUser {c : Char} (h : standsInUser c = true) :
    IsInner c := by
  have hlt : c.toNat < 127 := by
    simp only [standsInUser, standsInPath, Bool.and_eq_true,
      decide_eq_true_eq] at h
    exact h.1.1.2
  exact Unicode.of_ascii (P := fun c => standsInUser c = true → IsInner c)
    (by decide) (by omega) h

section Authorities

variable {user : List Char} {host : Host} {port : Option Nat} {c : Char}

/-- The host and the port hold nothing that would end them or make a user
of what is before it. -/
theorem isInner_of_mem_place (hhost : host.Read)
    (h : c ∈ host.write ++ writePort port) : IsInner c ∧ c ≠ '@' := by
  have hplain : ∀ d, IsPlain d → IsInner d ∧ d ≠ '@' := by
    intro d hd
    refine ⟨isInner_of_isPlain hd, ?_⟩
    rintro rfl
    cases hd.2
  rcases List.mem_append.mp h with hname | hport
  · rcases Host.of_mem_write hhost hname with hc | rfl | rfl | rfl
    · exact hplain c hc
    all_goals exact ⟨by decide, by decide⟩
  · rcases of_mem_writePort hport with rfl | hdigit
    · exact ⟨by decide, by decide⟩
    · exact hplain c (Domain.isPlain_of_isDigit hdigit)

theorem isInner_of_mem_writeUser {text : List Char} (h : c ∈ writeUser text) :
    IsInner c := by
  rcases of_mem_writeUser h with hstands | rfl
  · exact isInner_of_standsInUser hstands
  · decide

/-- The parts of an authority are ones that may have been read. -/
structure Authority.Read (authority : Authority Host) : Prop where
  user : ∃ text, writeUser text = authority.user
  host : authority.host.Read
  port : ∀ port ∈ authority.port, port < 65536

/-- The user as it stands in an address, and what is after the at sign. -/
def splitUser (text : List Char) : List Char × List Char :=
  match splitLast '@' text with
  | some (user, place) => (writeUser user, place)
  | none => ([], text)

/-- An authority is read in three parts, and the host is judged before the
port. -/
theorem readAuthority_eq {η : Type} (readHost : List Char → Except Fault η)
    (text : List Char) :
    readAuthority readHost text =
      match readHost (cutHost false (splitUser text).2).1 with
      | .error fault => .error fault
      | .ok host =>
          match readPort (cutHost false (splitUser text).2).2 with
          | .error fault => .error fault
          | .ok port => .ok ⟨(splitUser text).1, host, port⟩ := by
  unfold readAuthority splitUser
  cases splitLast '@' text <;> rfl

/-- User information that was read is written from some text. -/
theorem exists_writeUser_eq (text : List Char) :
    ∃ user, writeUser user = (splitUser text).1 := by
  unfold splitUser
  split
  · exact ⟨_, rfl⟩
  · exact ⟨[], rfl⟩

/-- A host that a web address has may have been read as a host. -/
theorem read_of_readWebHost {text : List Char}
    (h : readWebHost text = .ok host) :
    host.Read := by
  unfold readWebHost at h
  split at h
  · cases h
  · exact Host.read_of_read h

/-- What comes out of reading an authority is one that may be written
back. -/
theorem Authority.read_of_readAuthority {text : List Char}
    {authority : Authority Host}
    (h : readAuthority readWebHost text = .ok authority) : authority.Read := by
  rw [readAuthority_eq] at h
  split at h
  · cases h
  · next host hhost =>
      split at h
      · cases h
      · next port hport =>
          obtain rfl := Except.ok.inj h
          exact ⟨exists_writeUser_eq text, read_of_readWebHost hhost,
            lt_of_readPort hport⟩

/-- No character of a written authority ends it. -/
theorem isInner_of_mem_write {authority : Authority Host}
    (hread : authority.Read) (h : c ∈ authority.write) : IsInner c := by
  obtain ⟨text, huser⟩ := hread.user
  rcases List.mem_append.mp h with hfront | hplace
  · split at hfront
    · cases hfront
    · rcases List.mem_append.mp hfront with hmem | hsign
      · exact isInner_of_mem_writeUser (huser ▸ hmem)
      · rw [List.mem_singleton.mp hsign]
        decide
  · exact (isInner_of_mem_place hread.host hplace).1

theorem write_ne_nil {authority : Authority Host} (h : authority.Read) :
    authority.write ≠ [] := by
  have hne := Host.write_ne_nil h.host
  simp [Authority.write, hne]

/-- User information is split off where it was written. -/
theorem splitUser_write {authority : Authority Host} (h : authority.Read) :
    splitUser authority.write
      = (authority.user,
        authority.host.write ++ writePort authority.port) := by
  obtain ⟨text, huser⟩ := h.user
  have hstays : writeUser authority.user = authority.user := by
    rw [← huser, writeUser_writeUser]
  have hsign : '@' ∉ authority.host.write ++ writePort authority.port :=
    fun hmem => (isInner_of_mem_place h.host hmem).2 rfl
  unfold splitUser Authority.write
  cases hempty : authority.user with
  | nil =>
      rw [List.isEmpty_nil, if_pos rfl, List.nil_append,
        splitLast_of_not_mem hsign]
  | cons d user =>
      rw [List.isEmpty_cons, if_neg Bool.false_ne_true, List.append_assoc,
        List.singleton_append, splitLast_append hsign, ← hempty]
      simp only [hstays]

/-- A written authority is read as the authority. -/
theorem readAuthority_write {authority : Authority Host}
    (h : authority.Read) :
    readAuthority readWebHost authority.write = .ok authority := by
  have hhost : readWebHost authority.host.write = .ok authority.host := by
    unfold readWebHost
    rw [if_neg (by rw [List.isEmpty_iff]; exact Host.write_ne_nil h.host)]
    exact Host.read_write h.host
  rw [readAuthority_eq, splitUser_write h]
  simp only [cutHost_write h.host (cutHost_writePort _), hhost,
    readPort_writePort h.port]

end Authorities

end SchemaDocs.Url
