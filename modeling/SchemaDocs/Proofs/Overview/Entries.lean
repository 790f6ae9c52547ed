/-
What an overview lists.

An overview groups the names of a schema by kind. Read group by group it
is a list of entries, each of them a kind and a name, and this list holds
one entry for each type that is listed, whatever the kinds of the types
and however often a name occurs (`entries_perm`). Nothing is lost in the
grouping because the groups are those of all kinds, and nothing in the
sorting because sorting is a permutation. So the groups of an overview
partition the types that are listed (`partitions_ofTypes`), and as the
names of a group are in order, nothing is left of the order of the types
(`ofTypes_congr`).

Without the types that every schema has, a group is the group with them
less their names, in the same order (`names_false`). Whether a type is
such a type is a matter of its name only.
-/
import Mathlib.Algebra.GroupWithZero.Nat
import Mathlib.Data.List.Perm.Basic
import SchemaDocs.Overview

namespace SchemaDocs

-- ============================================================= built-ins

/-- Whether a name is one that every schema has: it belongs to
introspection or to a scalar of the language. -/
def isBuiltinName (name : String) : Bool :=
  ['_', '_'].isPrefixOf name.toList
    || ["String", "Int", "Float", "Boolean", "ID"].contains name

theorem TypeDef.isBuiltin_eq (type : TypeDef) :
    type.isBuiltin = isBuiltinName type.name := rfl

-- ============================================================== by kind

theorem Kind.mem_all (kind : Kind) : kind ∈ Kind.all := by
  cases kind <;> decide

theorem Kind.nodup_all : Kind.all.Nodup := by decide

/-- The members of some kinds, taken kind by kind. -/
theorem flatMap_filter_perm {α : Type} (kind : α → Kind) (members : List α)
    {kinds : List Kind} (h : kinds.Nodup) :
    (kinds.flatMap fun k => members.filter fun a => kind a = k).Perm
      (members.filter fun a => kind a ∈ kinds) := by
  induction kinds with
  | nil =>
      rw [List.flatMap_nil, List.filter_eq_nil_iff.mpr (by simp)]
  | cons k kinds ih =>
      obtain ⟨hk, hkinds⟩ := List.nodup_cons.mp h
      have hsplit := List.filter_append_perm (fun a => kind a = k)
        (members.filter fun a => kind a ∈ k :: kinds)
      have hfirst : ((members.filter fun a => kind a ∈ k :: kinds).filter
          fun a => kind a = k) = members.filter fun a => kind a = k := by
        rw [List.filter_filter]
        refine List.filter_congr fun a _ => ?_
        by_cases ha : kind a = k <;> simp [ha]
      have hrest : ((members.filter fun a => kind a ∈ k :: kinds).filter
          fun a => !decide (kind a = k))
            = members.filter fun a => kind a ∈ kinds := by
        rw [List.filter_filter]
        refine List.filter_congr fun a _ => ?_
        by_cases ha : kind a = k <;> simp [ha, hk]
      rw [hfirst, hrest] at hsplit
      rw [List.flatMap_cons]
      exact ((ih hkinds).append_left _).trans hsplit

/-- The members of a list, taken kind by kind, are its members. -/
theorem flatMap_all_filter_perm {α : Type} (kind : α → Kind)
    (members : List α) :
    (Kind.all.flatMap fun k => members.filter fun a => kind a = k).Perm
      members := by
  have h := flatMap_filter_perm kind members Kind.nodup_all
  rwa [List.filter_eq_self.mpr fun a _ =>
    decide_eq_true (Kind.mem_all (kind a))] at h

namespace Overview

variable {types : List TypeDef}

-- ============================================================== entries

/-- The names of an overview, each with the kind of its group. -/
def entries (overview : Overview) : List (Kind × String) :=
  overview.groups.flatMap fun group => group.2.map fun name => (group.1, name)

/-- A kind without names has no group, and adds no entries. -/
theorem entries_eq (overview : Overview) :
    overview.entries = Kind.all.flatMap fun kind =>
      (overview.names kind).map fun name => (kind, name) := by
  unfold entries groups
  generalize Kind.all = kinds
  induction kinds with
  | nil => rfl
  | cons kind kinds ih =>
      rw [List.map_cons, List.flatMap_cons, List.filter_cons]
      cases hnames : (overview.names kind).isEmpty with
      | true =>
          rw [List.isEmpty_iff.mp hnames, List.map_nil, List.nil_append]
          simpa [hnames] using ih
      | false =>
          simp only [Bool.not_false, if_true, List.flatMap_cons]
          rw [ih]

/-- Whether a type is listed. -/
def lists (withBuiltins : Bool) (type : TypeDef) : Bool :=
  withBuiltins || !type.isBuiltin

/-- The names of a kind are those of its types that are listed. -/
theorem names_perm (types : List TypeDef) (withBuiltins : Bool)
    (kind : Kind) :
    ((ofTypes types withBuiltins).names kind).Perm
      (((types.filter (lists withBuiltins)).filter
        fun type => type.kind = kind).map TypeDef.name) := by
  rw [List.filter_filter]
  exact Text.sorted_perm _

/-- An overview has one entry for each type that is listed. -/
theorem entries_perm (types : List TypeDef) (withBuiltins : Bool) :
    ((ofTypes types withBuiltins).entries).Perm
      ((types.filter (lists withBuiltins)).map
        fun type => (type.kind, type.name)) := by
  have hgroup : ∀ kind, (((ofTypes types withBuiltins).names kind).map
      fun name => (kind, name)).Perm
        (((types.filter (lists withBuiltins)).filter
          fun type => type.kind = kind).map
            fun type => (type.kind, type.name)) := by
    intro kind
    have h := (names_perm types withBuiltins kind).map fun name => (kind, name)
    rw [List.map_map] at h
    refine h.trans (.of_eq (List.map_congr_left fun type htype => ?_))
    have hkind : type.kind = kind := by
      simpa using (List.mem_filter.mp htype).2
    rw [← hkind]
    rfl
  rw [entries_eq]
  refine (List.Perm.flatMap_left _ fun kind _ => hgroup kind).trans ?_
  rw [← List.map_flatMap]
  exact (flatMap_all_filter_perm TypeDef.kind _).map _

/-- Without built-ins a group is the group with them less their names. -/
theorem names_false (kind : Kind) :
    (ofTypes types false).names kind
      = ((ofTypes types true).names kind).filter
          fun name => !isBuiltinName name := by
  have hlisted : ∀ type : TypeDef, (!isBuiltinName type.name
        && (decide (type.kind = kind) && (true || !type.isBuiltin)))
      = (decide (type.kind = kind) && (false || !type.isBuiltin)) := by
    intro type
    rw [type.isBuiltin_eq, Bool.false_or, Bool.true_or, Bool.and_true,
      Bool.and_comm]
  refine Text.sorted_eq ?_ ((Text.pairwise_sorted _).filter _)
  refine ((Text.sorted_perm _).filter _).trans (.of_eq ?_)
  rw [List.filter_map, List.filter_filter]
  exact congrArg _ (List.filter_congr fun type _ => hlisted type)

/-- So the overview without built-ins is the one with them less their
entries. -/
theorem entries_false :
    (ofTypes types false).entries
      = (ofTypes types true).entries.filter
          fun entry => !isBuiltinName entry.2 := by
  rw [entries_eq, entries_eq, List.filter_flatMap]
  congr 1
  funext kind
  rw [List.filter_map, names_false]
  rfl

/-- With built-ins, the names that are listed are those of all types. -/
theorem names_entries_perm :
    ((ofTypes types true).entries.map Prod.snd).Perm
      (types.map TypeDef.name) := by
  have h := (entries_perm types true).map Prod.snd
  have hall : types.filter (lists true) = types :=
    List.filter_eq_self.mpr fun _ _ => rfl
  rw [hall, List.map_map] at h
  exact h

/-- Leaving them out of the listing is leaving them out of the schema. -/
theorem ofTypes_false (types : List TypeDef) :
    ofTypes types false
      = ofTypes (types.filter fun type => !type.isBuiltin) true := by
  have hfilter : ∀ kind, (types.filter fun type =>
        type.kind = kind && (false || !type.isBuiltin))
      = (types.filter fun type => !type.isBuiltin).filter fun type =>
          type.kind = kind && (true || !type.isBuiltin) := by
    intro kind
    rw [List.filter_filter]
    refine List.filter_congr fun type _ => ?_
    simp
  unfold ofTypes
  simp only [hfilter]

-- =============================================================== totals

/-- The total counts the entries. -/
theorem total_eq (overview : Overview) :
    overview.total = overview.entries.length := by
  rw [total, entries_eq, List.length_flatMap, List.length_flatMap]
  simp only [List.length_map]

/-- It is the sum of what the groups count. -/
theorem total_eq_sum (overview : Overview) :
    overview.total
      = (overview.groups.map fun group => group.2.length).sum := by
  rw [total_eq, entries, List.length_flatMap]
  simp only [List.length_map]

/-- No more names are listed than there are types. -/
theorem total_le (types : List TypeDef) (withBuiltins : Bool) :
    (ofTypes types withBuiltins).total ≤ types.length := by
  rw [total_eq, (entries_perm types withBuiltins).length_eq, List.length_map]
  exact List.length_filter_le _ _

-- =========================================================== partitions

/-- The groups of an overview are the types that are listed, by kind and
in order. -/
structure Partitions (overview : Overview) (listed : List TypeDef) : Prop where
  /-- Each type has an entry of its own, and nothing else has. -/
  entries : overview.entries.Perm
    (listed.map fun type => (type.kind, type.name))
  nonempty : ∀ group ∈ overview.groups, group.2 ≠ []
  sorted : ∀ group ∈ overview.groups, group.2.Pairwise (· ≤ ·)
  /-- No kind has two groups, and they are in the order of kinds. -/
  kinds : (overview.groups.map Prod.fst).Sublist Kind.all
  total : overview.total = listed.length
  sum : overview.total = (overview.groups.map fun group => group.2.length).sum

/-- The groups are the kinds that have names at all. -/
theorem mem_groups_iff {overview : Overview} {group : Kind × List String} :
    group ∈ overview.groups
      ↔ group.2 = overview.names group.1 ∧ group.2 ≠ [] := by
  obtain ⟨kind, names⟩ := group
  unfold groups
  rw [List.mem_filter, List.mem_map]
  constructor
  · rintro ⟨⟨k, -, hk⟩, hne⟩
    cases hk
    exact ⟨rfl, by simpa using hne⟩
  · intro ⟨hnames, hne⟩
    exact ⟨⟨kind, Kind.mem_all kind, congrArg _ hnames.symm⟩,
      by simpa using hne⟩

/-- The groups part the types that are listed by their kinds. -/
theorem partitions_ofTypes (types : List TypeDef) (withBuiltins : Bool) :
    (ofTypes types withBuiltins).Partitions
      (types.filter (lists withBuiltins)) where
  entries := entries_perm types withBuiltins
  nonempty _ hgroup := (mem_groups_iff.mp hgroup).2
  sorted group hgroup := by
    rw [(mem_groups_iff.mp hgroup).1]
    exact Text.pairwise_sorted _
  kinds := by
    have hkinds : (Kind.all.map fun kind =>
        (kind, (ofTypes types withBuiltins).names kind)).map Prod.fst
          = Kind.all := by
      rw [List.map_map]
      exact List.map_id _
    rw [← hkinds]
    exact List.filter_sublist.map Prod.fst
  total := by
    rw [total_eq, (entries_perm types withBuiltins).length_eq,
      List.length_map]
  sum := total_eq_sum _

/-- The order of the types does not matter. -/
theorem ofTypes_congr {others : List TypeDef} (h : types.Perm others)
    (withBuiltins : Bool) :
    ofTypes types withBuiltins = ofTypes others withBuiltins := by
  have hnames : ∀ kind, Text.sorted ((types.filter fun type =>
        type.kind = kind && (withBuiltins || !type.isBuiltin)).map
          TypeDef.name)
      = Text.sorted ((others.filter fun type =>
        type.kind = kind && (withBuiltins || !type.isBuiltin)).map
          TypeDef.name) := fun kind =>
    Text.sorted_congr ((h.filter _).map _)
  unfold ofTypes
  simp only [hnames]

end Overview

end SchemaDocs
