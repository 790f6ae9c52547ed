/-
All pages of a site give the same base.

A base is what is left of an address when everything behind the path is
dropped, and the path is trimmed. It is written as an address again. This
module proves that the address of a base, with any slashes, query and
fragment behind it and blanks around it, is read as the base.

What was read is of the form that is left alone when it is read
(`PageBase.Read`): the user is escaped, the host is in its shortest form,
the port is not the one of the scheme, and the path has neither dot
segments nor an empty segment at its end. The parts are told apart by
characters that they do not hold, and the sign of the query or the
fragment is the first one that is not part of the base, wherever the
blanks at the end are cut off (`bare_append`).
-/
import Mathlib.Data.List.TakeWhile
import SchemaDocs.Page.Base
import SchemaDocs.Proofs.Url.Authority

namespace SchemaDocs

open Url (Host Authority IsInner)

-- ============================================================ trimming

namespace Text

variable {p : Char → Bool} {before front rest : List Char}

/-- What is dropped at the end does not reach back beyond what stays. -/
theorem dropEndWhile_append (h : ∀ c ∈ front, p c = false) :
    dropEndWhile p (front ++ rest) = front ++ dropEndWhile p rest := by
  have hfront : front.reverse.dropWhile p = front.reverse := by
    cases hreverse : front.reverse with
    | nil => rfl
    | cons c cs =>
        have hmem : c ∈ front := by
          rw [← List.mem_reverse, hreverse]
          exact List.mem_cons_self
        rw [List.dropWhile_cons, h c hmem]
        rfl
  unfold dropEndWhile
  rw [List.reverse_append, List.dropWhile_append]
  split
  · next hnone =>
      rw [hfront, List.isEmpty_iff.mp hnone]
      simp
  · rw [List.reverse_append, List.reverse_reverse]

theorem dropEndWhile_of_forall (h : ∀ c ∈ rest, p c = true) :
    dropEndWhile p rest = [] := by
  have hnone : rest.reverse.dropWhile p = [] :=
    List.dropWhile_eq_nil_iff.mpr fun c hc => h c (List.mem_reverse.mp hc)
  rw [dropEndWhile, hnone, List.reverse_nil]

/-- Stripping stops at a text that is there to stay. -/
theorem stripWhile_append (hbefore : ∀ c ∈ before, p c = true)
    (hne : front ≠ [])
    (hfront : ∀ c ∈ front, p c = false) :
    stripWhile p (before ++ (front ++ rest)) = front
      ++ dropEndWhile p rest := by
  have hstop : (front ++ rest).dropWhile p = front ++ rest := by
    cases front with
    | nil => exact absurd rfl hne
    | cons c cs => simp [hfront c List.mem_cons_self]
  unfold stripWhile
  rw [List.dropWhile_append_of_pos hbefore, hstop, dropEndWhile_append hfront]

end Text

namespace PageBase

-- ============================================================== paths

section Paths

variable {text segment : List Char} {path : List (List Char)}

/-- Segments with a slash before each. -/
def writePath (path : List (List Char)) : List Char := path.flatMap ('/' :: ·)

/-- The segment is left alone when it is read. -/
structure Stays (segment : List Char) : Prop where
  here : isHere segment = false
  above : isAbove segment = false
  stands : ∀ c ∈ segment, Url.standsInPath c = true ∧ c ≠ '/' ∧ c ≠ '\\'

theorem stays_nil : Stays [] :=
  ⟨by decide, by decide, fun _ hc => nomatch hc⟩

/-- No slash is left in a segment. -/
theorem mem_of_mem_segments {c : Char} (h : segment ∈ segments text)
    (hc : c ∈ segment) : c ≠ '/' ∧ c ≠ '\\' := by
  induction text generalizing segment with
  | nil =>
      rw [List.mem_singleton.mp h] at hc
      cases hc
  | cons d text ih =>
      rw [segments] at h
      split at h
      · rcases List.mem_cons.mp h with rfl | hrest
        · cases hc
        · exact ih hrest hc
      · next hd =>
          rw [not_or] at hd
          split at h
          · next first more heq =>
              rcases List.mem_cons.mp h with rfl | hrest
              · rcases List.mem_cons.mp hc with rfl | hc
                · exact hd
                · exact ih (heq ▸ List.mem_cons_self) hc
              · exact ih (heq ▸ List.mem_cons_of_mem _ hrest) hc
          · rw [List.mem_singleton.mp h, List.mem_singleton] at hc
            exact hc ▸ hd

/-- Walking reaches what was there, empty segments, and segments of the
path that are no dot segments. -/
theorem forall_mem_walk {P : List Char → Prop} (hnil : P [])
    {reached : List (List Char)} (hreached : ∀ s ∈ reached, P s)
    (hpath : ∀ s ∈ path, isHere s = false → isAbove s = false → P s) :
    ∀ s ∈ walk reached path, P s := by
  induction path generalizing reached with
  | nil => exact hreached
  | cons segment path ih =>
      have hlater : ∀ s ∈ path, isHere s = false → isAbove s = false → P s :=
        fun s hs => hpath s (List.mem_cons_of_mem _ hs)
      have hshut : ∀ above : List (List Char), (∀ s ∈ above, P s) →
          ∀ s ∈ (if path.isEmpty then [] :: above else above), P s := by
        intro above habove
        split
        · exact List.forall_mem_cons.mpr ⟨hnil, habove⟩
        · exact habove
      rw [walk]
      simp only []
      split
      · refine ih (hshut _ fun s hs => ?_) hlater
        exact hreached s (List.mem_of_mem_tail hs)
      · next habove =>
          split
          · exact ih (hshut _ hreached) hlater
          · next hhere =>
              have hsegment := hpath segment List.mem_cons_self
                (Bool.eq_false_iff.mpr hhere) (Bool.eq_false_iff.mpr habove)
              exact ih (List.forall_mem_cons.mpr ⟨hsegment, hreached⟩) hlater

/-- Where there are no dot segments, walking reaches every segment. -/
theorem walk_of_forall {reached : List (List Char)}
    (h : ∀ segment ∈ path, Stays segment) :
    walk reached path = path.reverse ++ reached := by
  induction path generalizing reached with
  | nil => rfl
  | cons segment path ih =>
      have hfirst := h segment List.mem_cons_self
      rw [walk, if_neg (by simp [hfirst.above]),
        if_neg (by simp [hfirst.here]),
        ih fun s hs => h s (List.mem_cons_of_mem _ hs), List.reverse_cons,
        List.append_assoc]
      rfl

/-- A segment without slashes goes before the first slash. -/
theorem segments_append (h : ∀ c ∈ segment, c ≠ '/' ∧ c ≠ '\\')
    (htext : segments text = [] :: path) :
    segments (segment ++ text) = segment :: path := by
  induction segment with
  | nil => exact htext
  | cons c segment ih =>
      have hc := h c List.mem_cons_self
      rw [List.cons_append, segments, if_neg (not_or.mpr hc),
        ih fun d hd => h d (List.mem_cons_of_mem _ hd)]

/-- The segments of a written path are its own, behind an empty one. -/
theorem segments_writePath
    (h : ∀ segment ∈ path, ∀ c ∈ segment, c ≠ '/' ∧ c ≠ '\\') :
    segments (writePath path) = [] :: path := by
  induction path with
  | nil => rfl
  | cons segment path ih =>
      have hrest := ih fun s hs => h s (List.mem_cons_of_mem _ hs)
      have hwrite : writePath (segment :: path)
          = '/' :: (segment ++ writePath path) := rfl
      rw [hwrite, segments, if_pos (.inl rfl),
        segments_append (h segment List.mem_cons_self) hrest]

/-- The segments that are read stay. -/
theorem stays_of_mem_readPath (h : segment ∈ readPath text) :
    Stays segment := by
  have hwalked : segment ∈ walk []
      ((segments (text.drop 1)).map (Url.escapeUnless Url.standsInPath)) :=
    (List.dropWhile_suffix _).subset (List.mem_reverse.mp h)
  refine forall_mem_walk stays_nil (List.forall_mem_nil Stays) ?_ segment
    hwalked
  intro s hs hhere habove
  obtain ⟨written, hwritten, rfl⟩ := List.mem_map.mp hs
  refine ⟨hhere, habove, fun c hc => ?_⟩
  refine ⟨Url.stands_of_mem_escapeUnless Url.keepsEscapes_path hc, ?_⟩
  rcases Url.of_mem_escapeUnless hc with ⟨hown, -⟩ | rfl | ⟨d, hd, rfl⟩
  · exact mem_of_mem_segments hwritten hown
  · decide
  · have hall : ∀ d < 16, Text.hexUpper d ≠ '/' ∧ Text.hexUpper d ≠ '\\' := by
      decide
    exact hall d hd

/-- A path that was read does not end in an empty segment. -/
theorem getLast?_readPath (text : List Char) :
    (readPath text).getLast? ≠ some [] := by
  unfold readPath
  simp only [List.getLast?_reverse]
  generalize walk [] ((segments (text.drop 1)).map
    (Url.escapeUnless Url.standsInPath)) = walked
  intro hlast
  have hfirst := List.head?_dropWhile_not (List.isEmpty (α := Char)) walked
  rw [hlast] at hfirst
  cases hfirst

theorem stays_append_slashes (hpath : ∀ segment ∈ path, Stays segment)
    (slashes : Nat) :
    ∀ segment ∈ path ++ List.replicate slashes [], Stays segment := by
  intro segment hmem
  rcases List.mem_append.mp hmem with hown | hempty
  · exact hpath segment hown
  · exact (List.mem_replicate.mp hempty).2 ▸ stays_nil

/-- Trimming takes the slashes and stops at the path. -/
theorem trim_append_slashes (hlast : path.getLast? ≠ some []) (slashes : Nat) :
    ((path ++ List.replicate slashes []).reverse.dropWhile
      List.isEmpty).reverse = path := by
  have hstop : path.reverse.dropWhile List.isEmpty = path.reverse := by
    cases hreverse : path.reverse with
    | nil => rfl
    | cons last front =>
        rw [List.getLast?_eq_head?_reverse, hreverse] at hlast
        cases last with
        | nil => exact absurd rfl hlast
        | cons c cs => rfl
  rw [List.reverse_append, List.reverse_replicate,
    List.dropWhile_append_of_pos, hstop, List.reverse_reverse]
  intro segment hmem
  rw [(List.mem_replicate.mp hmem).2]
  rfl

/-- Segments that stay are found where they were written. -/
theorem walk_writePath (h : ∀ segment ∈ path, Stays segment)
    (hne : path ≠ []) :
    walk [] ((segments ((writePath path).drop 1)).map
      (Url.escapeUnless Url.standsInPath)) = path.reverse := by
  have hescape : ∀ segment ∈ path,
      Url.escapeUnless Url.standsInPath segment = segment :=
    fun segment hmem => Url.escapeUnless_of_stands fun c hc =>
      ((h segment hmem).stands c hc).1
  have hsegments : segments ((writePath path).drop 1) = path := by
    have hall := segments_writePath fun segment hmem c hc =>
      ((h segment hmem).stands c hc).2
    cases path with
    | nil => exact absurd rfl hne
    | cons first rest =>
        have hcons : writePath (first :: rest)
            = '/' :: (first ++ writePath rest) := rfl
        rw [hcons, segments, if_pos (.inl rfl)] at hall
        rw [hcons, List.drop_succ_cons, List.drop_zero]
        exact (List.cons.inj hall).2
  rw [hsegments, List.map_congr_left hescape, List.map_id', walk_of_forall h,
    List.append_nil]

/-- A path that stays is read as it was written, with slashes behind it. -/
theorem readPath_writePath (hpath : ∀ segment ∈ path, Stays segment)
    (hlast : path.getLast? ≠ some []) (slashes : Nat) :
    readPath (writePath (path ++ List.replicate slashes [])) = path := by
  have hall := stays_append_slashes hpath slashes
  have htrim := trim_append_slashes hlast slashes
  generalize path ++ List.replicate slashes [] = written at hall htrim
  cases written with
  -- A text without a slash still is one segment, an empty one.
  | nil => exact htrim
  | cons first rest =>
      unfold readPath
      simp only [walk_writePath hall (List.cons_ne_nil _ _)]
      exact htrim

end Paths

-- ============================================================== bases

/-- What stands between the scheme and the path of a base. -/
def authority (base : PageBase) : Authority Host :=
  ⟨base.user, base.host, base.port⟩

/-- The base is one that may have been read. -/
structure Read (base : PageBase) : Prop where
  authority : base.authority.Read
  port : ∀ port ∈ base.port, port ≠ base.scheme.port
  path : ∀ segment ∈ base.path, Stays segment
  last : base.path.getLast? ≠ some []

variable {base : PageBase}

theorem chars_eq (base : PageBase) :
    base.chars = base.scheme.name.toList ++ "://".toList
      ++ (base.authority.write ++ writePath base.path) := by
  unfold chars authority Authority.write writePath
  cases base.port <;> simp only [Url.writePort, List.append_assoc]

/-- A base that is read of a web address may be written back. -/
theorem read_of_readWeb {scheme : Scheme} {rest : List Char}
    (h : readWeb scheme rest = .ok base) : base.Read := by
  unfold readWeb at h
  simp only [] at h
  split at h
  · cases h
  · next read hread =>
      obtain rfl := Except.ok.inj h
      have hauthority := Authority.read_of_readAuthority hread
      refine ⟨⟨hauthority.user, hauthority.host, ?_⟩, ?_,
        fun _ hs => stays_of_mem_readPath hs, getLast?_readPath _⟩
      · intro port hport
        exact hauthority.port port (Option.mem_filter_iff.mp hport).1
      · intro port hport
        exact of_decide_eq_true (Option.mem_filter_iff.mp hport).2

/-- Whatever was read is a base that stays. -/
theorem read_of_parse {raw : String} (h : parse raw = .ok base) :
    base.Read := by
  unfold parse at h
  split at h
  · next address haddress =>
      obtain rfl := Except.ok.inj h
      unfold readAddress at haddress
      split at haddress
      · cases haddress
      · split at haddress
        · exact read_of_readWeb haddress
        · split at haddress
          · exact read_of_readWeb haddress
          · cases haddress
  · cases h

-- ========================================================== characters

theorem Stays.isInner {segment : List Char} (h : Stays segment) {c : Char}
    (hc : c ∈ segment) : IsInner c := by
  obtain ⟨hstands, hslash, hbackslash⟩ := h.stands c hc
  simp only [Url.standsInPath, Bool.and_eq_true, decide_eq_true_eq] at hstands
  refine ⟨hstands.1.1, hstands.1.2, ?_⟩
  have hmark : c ≠ '?' ∧ c ≠ '#' := by
    constructor <;> rintro rfl <;> cases hstands.2
  simp [Url.endsAuthority, hslash, hbackslash, hmark.1, hmark.2]

/-- A written path holds its segments and slashes. -/
theorem isInner_of_mem_writePath {path : List (List Char)} {c : Char}
    (hpath : ∀ segment ∈ path, Stays segment) (h : c ∈ writePath path) :
    IsInner c ∨ c = '/' := by
  obtain ⟨segment, hmem, hc⟩ := List.mem_flatMap.mp h
  rcases List.mem_cons.mp hc with hslash | hc
  · exact .inr hslash
  · exact .inl ((hpath segment hmem).isInner hc)

/-- A base holds visible ASCII characters, and slashes. -/
theorem isInner_of_mem_chars (h : base.Read) {c : Char} (hc : c ∈ base.chars) :
    IsInner c ∨ c = '/' := by
  rw [chars_eq] at hc
  rcases List.mem_append.mp hc with hscheme | hrest
  · have hall : (base.scheme.name.toList ++ "://".toList).all (fun c =>
        IsInner c ∨ c = '/') = true := by
      cases base.scheme <;> decide
    exact of_decide_eq_true (List.all_eq_true.mp hall c hscheme)
  · rcases List.mem_append.mp hrest with hauthority | hpath
    · exact .inl (Url.isInner_of_mem_write h.authority hauthority)
    · exact isInner_of_mem_writePath h.path hpath

/-- The character is visible and starts neither a query nor a fragment. -/
def IsVisible (c : Char) : Prop :=
  Text.isBlank c = false ∧ 0x20 < c.toNat ∧ c ≠ '?' ∧ c ≠ '#'

/-- Characters inside an address are visible, and they start no query and
no fragment. -/
theorem isVisible_of_isInner {c : Char} (h : IsInner c ∨ c = '/') :
    IsVisible c := by
  rcases h with ⟨hlow, hhigh, hends⟩ | rfl
  · refine ⟨?_, hlow, ?_, ?_⟩
    · simp only [Text.isBlank, Bool.or_eq_false_iff, Bool.and_eq_false_iff,
        decide_eq_false_iff_not, beq_eq_false_iff_ne]
      omega
    all_goals
      rintro rfl
      cases hends
  · unfold IsVisible
    decide

-- ============================================================= reading

/-- The text starts a query or a fragment, or is empty. -/
def StartsMark (text : List Char) : Prop :=
  ∀ c ∈ text.head?, c = '?' ∨ c = '#'

/-- A query or a fragment still starts with its mark when blanks are
dropped at its end. -/
theorem StartsMark.dropEndWhile {text : List Char} (h : StartsMark text)
    {p : Char → Bool} (hp : p '?' = false ∧ p '#' = false) :
    StartsMark (Text.dropEndWhile p text) := by
  cases text with
  | nil => exact h
  | cons c cs =>
      have hc : ∀ d ∈ [c], p d = false := by
        intro d hd
        rw [List.mem_singleton.mp hd]
        rcases h c rfl with rfl | rfl
        · exact hp.1
        · exact hp.2
      rw [← List.singleton_append, Text.dropEndWhile_append hc]
      exact fun d hd => h d hd

/-- It does so without the characters that are taken out, too. -/
theorem StartsMark.filter {text : List Char} (h : StartsMark text)
    {keeps : Char → Bool} (hkeeps : keeps '?' = true ∧ keeps '#' = true) :
    StartsMark (text.filter keeps) := by
  cases text with
  | nil => exact h
  | cons c cs =>
      have hc : keeps c = true := by
        rcases h c rfl with rfl | rfl
        · exact hkeeps.1
        · exact hkeeps.2
      rw [List.filter_cons, if_pos hc]
      exact fun d hd => h d hd

/-- Of an address with blanks around it everything visible is left, up to
the sign that starts a query or a fragment. -/
theorem bare_append {before front rest after : List Char}
    (hbefore : ∀ c ∈ before, Text.isBlank c = true) (hne : front ≠ [])
    (hfront : ∀ c ∈ front, IsVisible c) (hrest : StartsMark rest)
    (hafter : ∀ c ∈ after, Text.isBlank c = true) :
    ∃ left, StartsMark left
      ∧ bare (before ++ (front ++ (rest ++ after))) = front ++ left := by
  have hblank : Text.stripWhile Text.isBlank
      (before ++ (front ++ (rest ++ after)))
      = front ++ Text.dropEndWhile Text.isBlank (rest ++ after) :=
    Text.stripWhile_append hbefore hne fun c hc => (hfront c hc).1
  -- Without a query and a fragment the blanks behind the base go together;
  -- with one of them its sign stops the trimming.
  have hend : StartsMark (Text.dropEndWhile Text.isBlank (rest ++ after)) := by
    cases rest with
    | nil =>
        rw [List.nil_append, Text.dropEndWhile_of_forall hafter]
        exact fun _ hc => nomatch hc
    | cons c cs =>
        have hstart : StartsMark (c :: cs ++ after) := fun d hd => hrest d hd
        exact hstart.dropEndWhile (by decide)
  generalize Text.dropEndWhile Text.isBlank (rest ++ after) = tail
    at hend hblank
  have hcontrol : Text.stripWhile (fun c => decide (c.toNat ≤ 0x20))
      (front ++ tail)
      = front
        ++ Text.dropEndWhile (fun c => decide (c.toNat ≤ 0x20)) tail := by
    refine Text.stripWhile_append (List.forall_mem_nil _) hne fun c hc => ?_
    rw [decide_eq_false_iff_not, Nat.not_le]
    exact (hfront c hc).2.1
  have hkept : front.filter (fun c => decide (c ≠ '\t' ∧ c ≠ '\n' ∧ c ≠ '\r'))
      = front := by
    refine List.filter_eq_self.mpr fun c hc => ?_
    have hvisible := (hfront c hc).1
    rw [decide_eq_true_eq]
    refine ⟨?_, ?_, ?_⟩ <;> rintro rfl <;> cases hvisible
  refine ⟨(Text.dropEndWhile (fun c => decide (c.toNat ≤ 0x20)) tail).filter
    fun c => decide (c ≠ '\t' ∧ c ≠ '\n' ∧ c ≠ '\r'),
    (hend.dropEndWhile (by decide)).filter (by decide), ?_⟩
  unfold bare
  rw [hblank, hcontrol, List.filter_append, hkept]

theorem splitScheme_append (scheme : Scheme) (rest : List Char) :
    splitScheme (scheme.name.toList ++ "://".toList ++ rest)
      = some (scheme.name.toList, "//".toList ++ rest) := by
  have hcut : Url.cut
      (fun c => !(c.isAlphanum || c = '+' || c = '-' || c = '.'))
      (scheme.name.toList ++ "://".toList ++ rest)
      = (scheme.name.toList, "://".toList ++ rest) := by
    rw [List.append_assoc]
    have hname : scheme.name.toList.all
        (fun c => c.isAlphanum || c = '+' || c = '-' || c = '.') = true := by
      cases scheme <;> decide
    refine Url.cut_append (fun c hc => ?_) fun c hc => Option.some.inj hc ▸ rfl
    rw [List.all_eq_true.mp hname c hc]
    rfl
  unfold splitScheme
  simp only [hcut]
  cases scheme <;> rfl

/-- A written base is read as a web address of its scheme. -/
theorem readAddress_append (scheme : Scheme) (rest : List Char) :
    readAddress (scheme.name.toList ++ "://".toList ++ rest)
      = readWeb scheme ("//".toList ++ rest) := by
  unfold readAddress
  rw [splitScheme_append]
  cases scheme <;> rfl

/-- The slashes before the authority are passed over, and no more. -/
theorem dropWhile_slashes {text : List Char} (hne : text ≠ [])
    (h : ∀ c ∈ text, IsInner c) (rest : List Char) :
    ("//".toList ++ (text ++ rest)).dropWhile (fun c => c = '/' ∨ c = '\\')
      = text ++ rest := by
  cases text with
  | nil => exact absurd rfl hne
  | cons c cs =>
      have hc : ¬(c = '/' ∨ c = '\\') := by
        have hends := (h c List.mem_cons_self).2.2
        rintro (rfl | rfl) <;> cases hends
      have hslashes : "//".toList = ['/', '/'] := rfl
      simp [hslashes, hc]

/-- The path ends before the query or the fragment. -/
theorem takeWhile_writePath {path : List (List Char)} {rest : List Char}
    (hpath : ∀ segment ∈ path, Stays segment) (hrest : StartsMark rest) :
    (writePath path ++ rest).takeWhile (fun c => decide (c ≠ '?' ∧ c ≠ '#'))
      = writePath path := by
  have hstop : rest.takeWhile (fun c => decide (c ≠ '?' ∧ c ≠ '#')) = [] := by
    cases rest with
    | nil => rfl
    | cons c cs => rcases hrest c rfl with rfl | rfl <;> rfl
  rw [List.takeWhile_append_of_pos, hstop, List.append_nil]
  intro c hc
  have hvisible := isVisible_of_isInner (isInner_of_mem_writePath hpath hc)
  exact decide_eq_true hvisible.2.2

/-- The authority ends before the path, the query or the fragment. -/
theorem cut_write (h : base.Read) (path : List (List Char)) {rest : List Char}
    (hrest : StartsMark rest) :
    Url.cut (Url.endsAuthority true)
      (base.authority.write ++ (writePath path ++ rest))
      = (base.authority.write, writePath path ++ rest) := by
  refine Url.cut_append
    (fun c hc => (Url.isInner_of_mem_write h.authority hc).2.2) ?_
  cases path with
  | nil =>
      intro c hc
      rcases hrest c hc with rfl | rfl <;> rfl
  | cons segment path => exact fun c hc => Option.some.inj hc ▸ rfl

/-- A base is read as it was written, with slashes and a query or a
fragment behind it. -/
theorem readWeb_write (h : base.Read) (slashes : Nat) {rest : List Char}
    (hrest : StartsMark rest) :
    readWeb base.scheme ("//".toList ++ (base.authority.write
      ++ (writePath (base.path ++ List.replicate slashes []) ++ rest)))
      = .ok base := by
  have hplace := dropWhile_slashes (Url.write_ne_nil h.authority)
    fun c hc => Url.isInner_of_mem_write h.authority hc
  have htake := takeWhile_writePath (stays_append_slashes h.path slashes) hrest
  have hport : base.port.filter (fun port => decide (port ≠ base.scheme.port))
      = base.port := by
    cases hsome : base.port with
    | none => rfl
    | some port => simp [h.port port hsome]
  unfold readWeb
  simp only [hplace, cut_write h _ hrest, Url.readAuthority_write h.authority,
    htake, readPath_writePath h.path h.last slashes]
  simp only [authority, hport]

/-- Empty segments at the end are written as slashes. -/
theorem writePath_append_slashes (path : List (List Char)) (slashes : Nat) :
    writePath (path ++ List.replicate slashes [])
      = writePath path ++ List.replicate slashes '/' := by
  have hslashes : writePath (List.replicate slashes [])
      = List.replicate slashes '/' := by
    induction slashes with
    | zero => rfl
    | succ n ih =>
        rw [List.replicate_succ, List.replicate_succ, ← ih]
        rfl
  rw [writePath, List.flatMap_append, ← hslashes]
  rfl

theorem chars_ne_nil (base : PageBase) : base.chars ≠ [] := by
  rw [chars_eq]
  cases base.scheme <;> exact List.cons_ne_nil _ _

/-- A base is read from what is written around it. -/
theorem parse_chars (h : base.Read) (slashes : Nat) (rest : List Char)
    {before after : List Char} {text : String}
    (htext : text.toList = before
      ++ (base.chars ++ List.replicate slashes '/' ++ (rest ++ after)))
    (hbefore : ∀ c ∈ before, Text.isBlank c = true) (hrest : StartsMark rest)
    (hafter : ∀ c ∈ after, Text.isBlank c = true) :
    parse text = .ok base := by
  have hne : base.chars ++ List.replicate slashes '/' ≠ [] := by
    simp [chars_ne_nil]
  have hvisible :
      ∀ c ∈ base.chars ++ List.replicate slashes '/', IsVisible c := by
    intro c hc
    rcases List.mem_append.mp hc with hown | hslash
    · exact isVisible_of_isInner (isInner_of_mem_chars h hown)
    · exact isVisible_of_isInner (.inr (List.mem_replicate.mp hslash).2)
  obtain ⟨left, hleft, hbare⟩ :=
    bare_append hbefore hne hvisible hrest hafter
  have hshape : base.chars ++ List.replicate slashes '/' ++ left
      = base.scheme.name.toList ++ "://".toList ++ (base.authority.write
        ++ (writePath (base.path ++ List.replicate slashes []) ++ left)) := by
    rw [chars_eq, writePath_append_slashes]
    simp only [List.append_assoc]
  unfold parse
  rw [htext, hbare, hshape, readAddress_append, readWeb_write h slashes hleft]

/-- A text does not end in a mark that its last part does not hold. -/
theorem getLast?_append_ne {front last : List Char} {mark : Char}
    (hne : last ≠ []) (h : mark ∉ last) :
    (front ++ last).getLast? ≠ some mark := by
  intro hlast
  rw [List.getLast?_append_of_ne_nil _ hne] at hlast
  exact h (List.mem_of_getLast? hlast)

/-- A base does not end in a slash: its path ends in a segment that is not
empty, and where there is none, the authority is before its end. -/
theorem getLast?_chars (h : base.Read) : base.chars.getLast? ≠ some '/' := by
  have hinner : ¬IsInner '/' := fun hslash => nomatch hslash.2.2
  rw [chars_eq, ← List.append_assoc]
  rcases List.eq_nil_or_concat base.path with hnil | ⟨front, last, hpath⟩
  · rw [hnil]
    simp only [writePath, List.flatMap_nil, List.append_nil]
    exact getLast?_append_ne (Url.write_ne_nil h.authority)
      fun hmem => hinner (Url.isInner_of_mem_write h.authority hmem)
  · rw [List.concat_eq_append] at hpath
    have hlast : last ≠ [] := by
      rintro rfl
      refine h.last ?_
      rw [hpath, List.getLast?_concat]
    have hstays := h.path last (hpath ▸ List.mem_concat_self)
    have hwrite : writePath base.path = writePath front ++ ['/'] ++ last := by
      simp [hpath, writePath]
    rw [hwrite, ← List.append_assoc]
    exact getLast?_append_ne hlast fun hmem => hinner (hstays.isInner hmem)

-- =============================================================== pages

/-- The address of a page on the site of a base: slashes behind the base,
and a query and a fragment where there are any. -/
def address (base : PageBase) (slashes : Nat)
    (query fragment : Option String) :
    String :=
  base.text ++ String.ofList (List.replicate slashes '/')
    ++ query.elim "" ("?" ++ ·) ++ fragment.elim "" ("#" ++ ·)

/-- What follows a base is a query, a fragment, or nothing. -/
theorem startsMark_address (query fragment : Option String) :
    StartsMark (query.elim "" ("?" ++ ·)
      ++ fragment.elim "" ("#" ++ ·)).toList := by
  intro c hc
  cases query with
  | some query =>
      have hfirst : some '?' = some c := by simpa using hc
      exact .inl (Option.some.inj hfirst).symm
  | none =>
      cases fragment with
      | some fragment =>
          have hfirst : some '#' = some c := by simpa using hc
          exact .inr (Option.some.inj hfirst).symm
      | none => cases hc

/-- Every page of a site gives the base of the site. What is read from an
address is read from its own text, from the address of any page with any
name, and from any address that adds slashes, a query or a fragment to it,
with blanks around it. The text itself ends before a slash and holds
neither the signs of a query or a fragment nor a blank. -/
theorem every_page_gives_the_base {raw : String} {base : PageBase}
    (h : parse raw = .ok base) :
    (∀ (slashes : Nat) (query fragment : Option String)
        (before after : String),
      (∀ c ∈ before.toList, Text.isBlank c = true) →
      (∀ c ∈ after.toList, Text.isBlank c = true) →
      parse (before ++ base.address slashes query fragment ++ after)
        = .ok base)
    ∧ parse base.text = .ok base
    ∧ (∀ name, parse (base.pageUrl name) = .ok base)
    ∧ base.text.toList.getLast? ≠ some '/'
    ∧ ∀ c ∈ base.text.toList, c ≠ '?' ∧ c ≠ '#' ∧ Text.isBlank c = false := by
  have hread := read_of_parse h
  have hblank : ∀ c ∈ ([] : List Char), Text.isBlank c = true :=
    List.forall_mem_nil _
  refine ⟨?_, ?_, ?_, ?_, ?_⟩
  · intro slashes query fragment before after hbefore hafter
    refine parse_chars hread slashes _ ?_ hbefore
      (startsMark_address query fragment) hafter
    simp [address, text]
  · refine parse_chars hread 0 [] ?_ hblank (fun _ hc => nomatch hc) hblank
    simp [text]
  · intro name
    refine parse_chars hread 1 ("?page=printType:" ++ name).toList ?_ hblank
      ?_ hblank
    · simp [text, pageUrl]
    · intro c hc
      have hfirst : some '?' = some c := by simpa using hc
      exact .inl (Option.some.inj hfirst).symm
  · rw [text, String.toList_ofList]
    exact getLast?_chars hread
  · intro c hc
    rw [text, String.toList_ofList] at hc
    obtain ⟨hblank, -, hquery, hfragment⟩ :=
      isVisible_of_isInner (isInner_of_mem_chars hread hc)
    exact ⟨hquery, hfragment, hblank⟩

/-- An address in which nothing is written the way a base writes it. -/
def crookedText : String :=
  "\u3000HTTP:/\\me@x:p:w@[0:0:1::0.0.2.1]:080"
    ++ "//a/./%2E%2e/b c/\té//?q#f\n"

/-- It gives a base, and so does every address below it. -/
theorem every_page_gives_the_base_crooked :
    ∃ base,
      parse crookedText = .ok base
      ∧ base.text = "http://me%40x:p%3Aw@[0:0:1::201]//b%20c/%C3%A9"
      ∧ parse (base.pageUrl "a b#c?d/../\n&e") = .ok base
      ∧ parse ("\t" ++ base.address 2 (some "/#?") (some "é\n/") ++ " ")
        = .ok base := by
  have hparse : parse crookedText
      = .ok
          { scheme := .http, user := "me%40x:p%3Aw".toList
            host := .ipv6 [0, 0, 1, 0, 0, 0, 0, 513], port := none
            path := [[], "b%20c".toList, "%C3%A9".toList] } := by
    decide +kernel
  obtain ⟨haround, -, hname, -⟩ := every_page_gives_the_base hparse
  exact ⟨_, hparse, by decide +kernel, hname _,
    haround 2 (some "/#?") (some "é\n/") "\t" " " (List.all_eq_true.mp rfl)
      (List.all_eq_true.mp rfl)⟩

end PageBase

end SchemaDocs
