/-
Addresses in links.

The address of the site is written into every link as it is, with a query
and a name behind it. The names of the schema language have no marks in
them and neither has the query, so what a link's address holds is decided
by the site's (`fitsCell_pageUrl_iff`). Most of it is: an address that
was read is visible ASCII without angle brackets and backslashes
(`isMild_of_mem_chars`). What is left are pipes, which come from the path
(`pipe_mem_chars_iff`), backticks, which come from the name of the host
(`tick_mem_chars_iff`), and parentheses, which come from anywhere.
-/
import SchemaDocs.Proofs.Page.Base
import SchemaDocs.Proofs.Text.Markup
import SchemaDocs.Sdl.Name

namespace SchemaDocs

open Url (Host)

/-- The character is visible. It starts no escape and stands for no bracket
around an address. -/
def IsMild (c : Char) : Prop :=
  0x20 < c.toNat ∧ c.toNat < 0x7F ∧ c ≠ '<' ∧ c ≠ '>' ∧ c ≠ '\\'

instance : DecidablePred IsMild := fun c =>
  inferInstanceAs (Decidable (0x20 < c.toNat ∧ c.toNat < 0x7F
    ∧ c ≠ '<' ∧ c ≠ '>' ∧ c ≠ '\\'))

/-- There are no escapes among such characters. -/
theorem not_mem_of_isMild {cs : List Char} (h : ∀ c ∈ cs, IsMild c) :
    '\\' ∉ cs := by
  intro hmem
  exact absurd (h _ hmem) (by decide)

-- ================================================================ names

namespace Sdl

/-- The characters are some that a name may go on with. -/
def IsWord (cs : List Char) : Prop := ∀ c ∈ cs, continuesName c = true

theorem isWord_of_isName {cs : List Char} (h : isName cs = true) :
    IsWord cs := by
  cases cs with
  | nil => cases h
  | cons first rest =>
      rw [isName, Bool.and_eq_true, List.all_eq_true] at h
      refine List.forall_mem_cons.mpr ⟨?_, h.2⟩
      unfold continuesName
      rw [h.1, Bool.true_or]

/-- There are no marks in them. -/
theorem IsWord.not_mem {cs : List Char} (h : IsWord cs) {c : Char}
    (hc : continuesName c = false) : c ∉ cs := by
  intro hmem
  rw [h c hmem] at hc
  cases hc

theorem toNat_lt_of_le {c last : Char} (h : c ≤ last)
    (hlast : last.toNat < 128) :
    c.toNat < 128 :=
  Nat.lt_of_le_of_lt (UInt32.le_iff_toNat_le.mp h) hlast

/-- What may stand in a name is mild. -/
theorem isMild_of_continuesName {c : Char} (h : continuesName c = true) :
    IsMild c := by
  have hlt : c.toNat < 128 := by
    unfold continuesName startsName at h
    rw [Bool.or_eq_true, Bool.or_eq_true, decide_eq_true_eq] at h
    rcases h with (hletter | rfl) | hdigit
    · rcases (Bool.or_eq_true _ _).mp hletter with hupper | hlower
      · have hlast : c ≤ 'Z' := (of_decide_eq_true hupper).2
        exact toNat_lt_of_le hlast (by decide)
      · have hlast : c ≤ 'z' :=
          of_decide_eq_true ((Bool.and_eq_true _ _).mp hlower).2
        exact toNat_lt_of_le hlast (by decide)
    · decide
    · have hrange := Url.Domain.range_of_isDigit hdigit
      omega
  exact Unicode.of_ascii (P := fun c => continuesName c = true → IsMild c)
    (by decide) hlt h

end Sdl

-- ================================================================ bases

namespace PageBase

variable {base : PageBase} {c : Char}

theorem toList_text (base : PageBase) : base.text.toList = base.chars :=
  String.toList_ofList

/-- The character may stand in a user name or between two parts. -/
def IsFrame (c : Char) : Prop :=
  Url.standsInUser c = true ∨ c = ':' ∨ c = '/' ∨ c = '@'

instance : DecidablePred IsFrame := fun c =>
  inferInstanceAs (Decidable (Url.standsInUser c = true
    ∨ c = ':' ∨ c = '/' ∨ c = '@'))

theorem isFrame_of_isDigit (h : c.isDigit = true) : IsFrame c := by
  have hrange := Url.Domain.range_of_isDigit h
  exact Unicode.of_ascii (P := fun c => c.isDigit = true → IsFrame c)
    (by decide) (by omega) h

/-- A character of a base is one of the host or of the path, unless it may
stand around them. -/
theorem of_mem_chars (h : base.Read) (hc : c ∈ base.chars) :
    IsFrame c ∨ c ∈ base.host.write ∨ ∃ segment ∈ base.path, c ∈ segment := by
  rw [chars_eq] at hc
  rcases List.mem_append.mp hc with hscheme | hrest
  · have hall : (base.scheme.name.toList ++ "://".toList).all
        (fun d => IsFrame d) = true := by
      cases base.scheme <;> decide
    exact .inl (of_decide_eq_true (List.all_eq_true.mp hall c hscheme))
  · rcases List.mem_append.mp hrest with hauthority | hpath
    · rcases List.mem_append.mp hauthority with huser | hplace
      · split at huser
        · cases huser
        · rcases List.mem_append.mp huser with hown | hsign
          · obtain ⟨text, htext⟩ := h.authority.user
            rcases Url.of_mem_writeUser (htext ▸ hown) with hstands | rfl
            · exact .inl (.inl hstands)
            · exact .inl (.inr (.inl rfl))
          · exact .inl (.inr (.inr (.inr (List.mem_singleton.mp hsign))))
      · rcases List.mem_append.mp hplace with hhost | hport
        · exact .inr (.inl hhost)
        · rcases Url.of_mem_writePort hport with hcolon | hdigit
          · exact .inl (.inr (.inl hcolon))
          · exact .inl (isFrame_of_isDigit hdigit)
    · obtain ⟨segment, hsegment, hmem⟩ := List.mem_flatMap.mp hpath
      rcases List.mem_cons.mp hmem with hslash | hown
      · exact .inl (.inr (.inr (.inl hslash)))
      · exact .inr (.inr ⟨segment, hsegment, hown⟩)

/-- A base is written in mild characters. -/
theorem isMild_of_mem_chars (h : base.Read) (hc : c ∈ base.chars) :
    IsMild c := by
  have hlt : c.toNat < 128 := by
    rcases isInner_of_mem_chars h hc with ⟨-, hlt, -⟩ | rfl
    · omega
    · decide
  rcases of_mem_chars h hc with hframe | hhost | ⟨segment, hsegment, hpath⟩
  · exact Unicode.of_ascii (P := fun c => IsFrame c → IsMild c)
      (by decide) hlt hframe
  · exact Unicode.of_ascii (P := fun c =>
        Url.Domain.IsPlain c ∨ c = '[' ∨ c = ':' ∨ c = ']' → IsMild c)
      (by decide) hlt (Host.of_mem_write h.authority.host hhost)
  · exact Unicode.of_ascii (P := fun c =>
        Url.standsInPath c = true ∧ c ≠ '/' ∧ c ≠ '\\' → IsMild c)
      (by decide) hlt ((h.path segment hsegment).stands c hpath)

/-- Pipes come from the path. -/
theorem pipe_mem_chars_iff (h : base.Read) :
    '|' ∈ base.chars ↔ ∃ segment ∈ base.path, '|' ∈ segment := by
  constructor
  · intro hc
    rcases of_mem_chars h hc with hframe | hhost | hpath
    · exact absurd hframe (by decide)
    · exact absurd (Host.of_mem_write h.authority.host hhost) (by decide)
    · exact hpath
  · rintro ⟨segment, hsegment, hc⟩
    have hpath : '|' ∈ writePath base.path :=
      List.mem_flatMap.mpr ⟨segment, hsegment, List.mem_cons_of_mem _ hc⟩
    rw [chars_eq]
    exact List.mem_append_right _ (List.mem_append_right _ hpath)

/-- Backticks come from the name of the host. -/
theorem tick_mem_chars_iff (h : base.Read) :
    '`' ∈ base.chars ↔ '`' ∈ base.host.write := by
  constructor
  · intro hc
    rcases of_mem_chars h hc with hframe | hhost | ⟨segment, hsegment, hpath⟩
    · exact absurd hframe (by decide)
    · exact hhost
    · exact absurd ((h.path segment hsegment).stands _ hpath) (by decide)
  · intro hc
    have hauthority : '`' ∈ base.authority.write :=
      List.mem_append_right _ (List.mem_append_left _ hc)
    rw [chars_eq]
    exact List.mem_append_right _ (List.mem_append_left _ hauthority)

end PageBase

-- =============================================================== links

/-- What a cell of a table asks of the address in a link. -/
structure FitsCell (url : List Char) : Prop where
  pipes : Text.barePipes url = 0
  mild : ∀ c ∈ url, IsMild c
  ticks : '`' ∉ url
  closed : Text.Balanced url

/-- What a table asks of the address of a site. -/
structure PageBase.FitsTable (base : PageBase) : Prop where
  pipes : '|' ∉ base.chars
  ticks : '`' ∉ base.chars
  closed : Text.Balanced base.chars

section Urls

variable {base : PageBase} {name : String} {c : Char}

namespace PageBase

/-- What stands between a base and a name in the address of a page. -/
def query : List Char := "/?page=printType:".toList

/-- The address of a page is the base with the query and the name. -/
theorem toList_pageUrl (base : PageBase) (name : String) :
    (base.pageUrl name).toList = base.chars ++ (query ++ name.toList) := by
  rw [pageUrl, String.toList_append, String.toList_append, toList_text,
    List.append_assoc]
  rfl

/-- The marks of an address are those of the base. -/
theorem count_pageUrl (hname : Sdl.IsWord name.toList) (hquery : c ∉ query)
    (hc : Sdl.continuesName c = false) :
    (base.pageUrl name).toList.count c = base.chars.count c := by
  rw [toList_pageUrl, List.count_append, List.count_append,
    List.count_eq_zero.mpr hquery, List.count_eq_zero.mpr (hname.not_mem hc)]
  rfl

/-- A character that no name and no query has stands in the address if the
base has it. -/
theorem mem_pageUrl_iff (hname : Sdl.IsWord name.toList) (hquery : c ∉ query)
    (hc : Sdl.continuesName c = false) :
    c ∈ (base.pageUrl name).toList ↔ c ∈ base.chars := by
  rw [← List.count_pos_iff, count_pageUrl hname hquery hc, List.count_pos_iff]

/-- Names and queries have no parentheses, so the base alone decides
whether those of the address are balanced. -/
theorem balanced_pageUrl_iff (hname : Sdl.IsWord name.toList) :
    Text.Balanced (base.pageUrl name).toList ↔ Text.Balanced base.chars := by
  rw [toList_pageUrl]
  apply Text.balanced_append_iff
  · rw [List.mem_append, not_or]
    exact ⟨by decide, hname.not_mem rfl⟩
  · rw [List.mem_append, not_or]
    exact ⟨by decide, hname.not_mem rfl⟩

/-- The address of a page is written in mild characters. -/
theorem isMild_of_mem_pageUrl (h : base.Read)
    (hname : Sdl.IsWord name.toList) (hc : c ∈ (base.pageUrl name).toList) :
    IsMild c := by
  rw [toList_pageUrl] at hc
  rcases List.mem_append.mp hc with hown | hrest
  · exact isMild_of_mem_chars h hown
  · rcases List.mem_append.mp hrest with hquery | hmem
    · have hall : query.all (fun d => IsMild d) = true := by decide
      exact of_decide_eq_true (List.all_eq_true.mp hall c hquery)
    · exact Sdl.isMild_of_continuesName (hname c hmem)

/-- An address fits in a cell if the base fits in a table. -/
theorem fitsCell_pageUrl_iff (h : base.Read)
    (hname : Sdl.IsWord name.toList) :
    FitsCell (base.pageUrl name).toList ↔ base.FitsTable := by
  have hmild : ∀ c ∈ (base.pageUrl name).toList, IsMild c :=
    fun c hc => isMild_of_mem_pageUrl h hname hc
  have hslash := not_mem_of_isMild hmild
  have hpipe : '|' ∈ (base.pageUrl name).toList ↔ '|' ∈ base.chars :=
    mem_pageUrl_iff hname (by decide) rfl
  have htick : '`' ∈ (base.pageUrl name).toList ↔ '`' ∈ base.chars :=
    mem_pageUrl_iff hname (by decide) rfl
  constructor
  · intro hfits
    have hnone := hfits.pipes
    rw [Text.barePipes_eq_count hslash, List.count_eq_zero, hpipe] at hnone
    exact ⟨hnone, htick.not.mp hfits.ticks,
      (balanced_pageUrl_iff hname).mp hfits.closed⟩
  · intro hfits
    refine ⟨?_, hmild, htick.not.mpr hfits.ticks,
      (balanced_pageUrl_iff hname).mpr hfits.closed⟩
    rw [Text.barePipes_eq_count hslash, List.count_eq_zero, hpipe]
    exact hfits.pipes

end PageBase

end Urls

end SchemaDocs
