/-
Listing and printing agree.

Which names a schema has is found out in three ways: a listing groups the
names by kind, a page is made of the types of a name, and a suggestion is
searched among the names that are like the wanted one. These walk over
the types one by one, each with a filter of its own, and they tell the
same story (`listing_tells_pages`). A name is listed as often as its page
has blocks, a name that is not listed has no page, and what is suggested
in its place is listed and has one.

All of it rests on one fact about overviews: that they have one entry for
each type that is listed (`Overview.entries_perm`).
-/
import SchemaDocs.CommandLine.Run
import SchemaDocs.Proofs.Overview.Entries
import SchemaDocs.Proofs.Page.Blocks

namespace SchemaDocs

variable {types : List TypeDef} {base : PageBase} {options : PageOptions}
  {name page : String}

-- ============================================================== listings

/-- The names of a listing, each as often as it is shown. -/
def Overview.shown (overview : Overview) : List String :=
  overview.entries.map Prod.snd

namespace Overview

/-- With built-ins a listing shows the names of all types. -/
theorem mem_shown_iff :
    name ∈ (ofTypes types true).shown ↔ name ∈ types.map TypeDef.name :=
  names_entries_perm.mem_iff

/-- And each of them as often as it has types. -/
theorem count_shown :
    (ofTypes types true).shown.count name
      = (typesNamed types name).length := by
  rw [length_typesNamed]
  exact names_entries_perm.count_eq name

end Overview

-- ================================================================= tasks

namespace CommandLine

variable {path : String}

/-- What printing a name answers, the events left out. -/
def printed (types : List TypeDef) (path name : String)
    (options : PageOptions) (base : PageBase) : Except Failure Output :=
  ((Task.print name options base).run path types).2

/-- What is printed is the page of the name. -/
theorem printed_eq_ok_iff {output : Output} :
    printed types path name options base = .ok output
      ↔ ∃ page, Page.render types base options name = .ok page
        ∧ output = .page name page := by
  cases hpage : Page.render types base options name with
  | ok page => simp [printed, Task.run, hpage, eq_comm]
  | error missing => simp [printed, Task.run, hpage]

/-- Where there is no page, the failure names what is missing and perhaps
something like it. -/
theorem printed_eq_error_iff {failure : Failure} :
    printed types path name options base = .error failure
      ↔ name ∉ types.map TypeDef.name
        ∧ failure = .missing ⟨name⟩ path (Similarity.closest name types) := by
  rw [← Page.exists_render_iff types base options]
  cases hpage : Page.render types base options name with
  | ok page => simp [printed, Task.run, hpage]
  | error missing =>
      obtain ⟨-, rfl⟩ := Page.render_eq_error_iff.mp hpage
      simp [printed, Task.run, hpage, eq_comm]

/-- Printing a name gives what listing the names promises. -/
structure PrintedAsListed (types : List TypeDef) (path : String)
    (all : Overview) (name : String) (options : PageOptions)
    (base : PageBase) : Prop where
  /-- The name has a page exactly when it is listed. -/
  page : (∃ output, printed types path name options base = .ok output)
    ↔ name ∈ all.shown
  /-- The page has a block for each time that the name is listed. -/
  blocks : ∀ output, printed types path name options base = .ok output →
    ∃ blocks : List String, output = .page name (String.join blocks)
      ∧ blocks.length = all.shown.count name
      ∧ blocks.Perm ((typesNamed types name).map
          (Page.block types base options))
  /-- Another name that is suggested does not belong to introspection, is
  listed, and has a page. -/
  suggestion : ∀ missing source suggested,
    printed types path name options base
        = .error (.missing missing source (some suggested)) →
      suggested ≠ name ∧ ¬ ['_', '_'] <+: suggested.toList
        ∧ suggested ∈ all.shown
        ∧ ∃ page, printed types path suggested options base
            = .ok (.page suggested page)

theorem printedAsListed (types : List TypeDef) (path name : String)
    (options : PageOptions) (base : PageBase) :
    PrintedAsListed types path (Overview.ofTypes types true) name options
      base where
  page := by
    rw [Overview.mem_shown_iff,
      ← Page.exists_render_iff types base options]
    simp only [printed_eq_ok_iff]
    constructor
    · rintro ⟨output, page, hpage, -⟩
      exact ⟨page, hpage⟩
    · rintro ⟨page, hpage⟩
      exact ⟨_, page, hpage, rfl⟩
  blocks output h := by
    obtain ⟨page, hpage, rfl⟩ := printed_eq_ok_iff.mp h
    obtain ⟨blocks, hblocks⟩ := Page.exists_madeOf_of_render hpage
    refine ⟨blocks, hblocks.joined ▸ rfl, ?_, hblocks.perm⟩
    rw [Overview.count_shown, hblocks.perm.length_eq, List.length_map]
  suggestion missing source suggested h := by
    obtain ⟨habsent, hfailure⟩ := printed_eq_error_iff.mp h
    injection hfailure with _ _ hclosest
    obtain ⟨type, htype, hreserved, rfl⟩ :=
      Similarity.exists_of_closestBy hclosest.symm
    have hname : type.name ∈ types.map TypeDef.name :=
      List.mem_map_of_mem htype
    obtain ⟨page, hpage⟩ :=
      (Page.exists_render_iff types base options _).mpr hname
    refine ⟨?_, ?_, Overview.mem_shown_iff.mpr hname, page,
      printed_eq_ok_iff.mpr ⟨page, hpage, rfl⟩⟩
    · rintro rfl
      exact habsent hname
    · rw [← List.isPrefixOf_iff_prefix]
      exact Bool.eq_false_iff.mp hreserved

/-- Listing and printing agree, whatever types a schema has. The listing
without built-ins is the one with them less the entries of introspection
and the scalars of the language, and every name is printed as the listing
with built-ins says. -/
theorem listing_tells_pages (path : String) (types : List TypeDef) :
    ∃ all users : Overview,
      ((Task.list true).run path types).2 = .ok (.listing all)
      ∧ ((Task.list false).run path types).2 = .ok (.listing users)
      ∧ users.entries = all.entries.filter
          (fun entry => !isBuiltinName entry.2)
      ∧ ∀ name options base,
          PrintedAsListed types path all name options base :=
  ⟨Overview.ofTypes types true, Overview.ofTypes types false, rfl, rfl,
    Overview.entries_false, fun name options base =>
      printedAsListed types path name options base⟩

end CommandLine

end SchemaDocs
