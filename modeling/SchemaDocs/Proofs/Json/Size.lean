/-
A document has no more in it than its text.

What a reader leaves is no longer than what it was given, and each item
of a list takes a character of its own. So no list is longer than the
text of the document that it stands in. This is told of the lists that
one comes to by following keys (`narrow_parse`): what stands deeper
inside a list is not looked at.
-/
import SchemaDocs.Json.Parser

namespace SchemaDocs

-- =============================================================== steps

/-- A step that others follow has an outcome that they go on with. -/
theorem exists_of_bind {ε α β : Type} {step : Except ε α}
    {more : α → Except ε β} {b : β} (h : step >>= more = .ok b) :
    ∃ a, step = .ok a ∧ more a = .ok b := by
  cases step with
  | error fault => cases h
  | ok a => exact ⟨a, rfl, h⟩

/-- A result that was mapped was there before. -/
theorem exists_of_map {ε α β : Type} {step : Except ε α} {f : α → β}
    {b : β} (h : step.map f = .ok b) : ∃ a, step = .ok a ∧ f a = b := by
  cases step with
  | error fault => cases h
  | ok a => exact ⟨a, rfl, Except.ok.inj h⟩

namespace Json

theorem length_skipSpace (cs : List Char) :
    (skipSpace cs).length ≤ cs.length := by
  induction cs with
  | nil => exact Nat.le_refl _
  | cons c rest ih =>
      rw [skipSpace]
      split
      · exact Nat.le_succ_of_le ih
      · exact Nat.le_refl _

/-- A reader leaves no more than it was given. -/
def Shortens {α : Type} (reader : Reader α) : Prop :=
  ∀ cs a rest, reader cs = .ok (a, rest) → rest.length ≤ cs.length

/-- A string ends within its text. -/
theorem shortens_stringRest (seen : List Char) :
    Shortens (stringRest seen) := by
  intro cs text rest h
  fun_induction stringRest seen cs with
  | case1 | case3 | case4 | case7 | case8 => cases h
  | case2 seen after =>
      cases h
      exact Nat.le_succ _
  | case5 seen after c later hescape hshort ih =>
      have := ih h
      simp only [List.length_cons]
      omega
  | case6 seen e after hne c hescape ih =>
      have := ih h
      simp only [List.length_cons]
      omega
  | case9 seen c after _ _ _ _ _ ih =>
      have := ih h
      simp only [List.length_cons]
      omega

theorem length_digits (cs : List Char) :
    (digits cs).2.length ≤ cs.length := by
  induction cs with
  | nil => exact Nat.le_refl _
  | cons c rest ih =>
      rw [digits]
      split
      · exact Nat.le_succ_of_le ih
      · exact Nat.le_refl _

theorem shortens_someDigits : Shortens someDigits := by
  intro cs ds rest h
  have hdigits := length_digits cs
  unfold someDigits at h
  split at h
  · cases h
  · cases h
  · next hread =>
      cases h
      rwa [hread] at hdigits

/-- A fraction, or none at all, leaves no more than there was. -/
theorem shortens_fractionPart : Shortens fractionPart := by
  intro cs ds rest h
  unfold fractionPart at h
  split at h
  · exact Nat.le_succ_of_le (shortens_someDigits _ _ _ h)
  · cases h
    exact Nat.le_refl _

theorem shortens_wholePart : Shortens wholePart := by
  intro cs ds rest h
  obtain ⟨⟨found, after⟩, hread, h⟩ := exists_of_bind h
  dsimp only at h
  split at h
  · cases h
  · cases h
    exact shortens_someDigits _ _ _ hread

/-- An exponent, or none at all, leaves no more than there was. -/
theorem shortens_exponentPart : Shortens exponentPart := by
  intro cs exponent rest h
  unfold exponentPart at h
  split at h
  · split at h
    · split at h
      all_goals
        obtain ⟨⟨ds, after⟩, hread, h⟩ := exists_of_bind h
        cases h
        have := shortens_someDigits _ _ _ hread
        simp only [List.length_cons] at *
        omega
    · cases h
      exact Nat.le_refl _
  · cases h
    exact Nat.le_refl _

-- =============================================================== lists

/-- The lists that the keys of a value lead to have at most `n` items. -/
inductive Narrow (n : Nat) : Json → Prop
  | intro {json : Json}
      (items : ∀ {items}, json.items? = some items → items.length ≤ n)
      (inner : ∀ {key value}, json.get? key = some value → Narrow n value) :
      Narrow n json

/-- A value without parts. -/
def isPlain : Json → Bool
  | array _ | object _ => false
  | _ => true

/-- A plain value holds no arrays and is narrow by any bound. -/
theorem narrow_of_isPlain {n : Nat} {json : Json} (h : json.isPlain = true) :
    Narrow n json := by
  refine .intro (fun {items} hitems => ?_) (fun {key value} hvalue => ?_)
  · cases json with
    | array => cases h
    | _ => cases hitems
  · cases json with
    | object => cases h
    | _ => cases hvalue

/-- An array is as wide as it is long. -/
theorem narrow_array {n : Nat} {items : List Json} (h : items.length ≤ n) :
    Narrow n (array items) := by
  refine .intro (fun {items} hitems => ?_) (fun {key value} hvalue => ?_)
  · cases hitems
    exact h
  · cases hvalue

/-- An object is narrow when its values are. -/
theorem narrow_object {n : Nat} {members : List (String × Json)}
    (h : ∀ entry ∈ members, Narrow n entry.2) : Narrow n (object members) := by
  refine .intro (fun {items} hitems => ?_) (fun {key value} hvalue => ?_)
  · cases hitems
  · exact h (key, value) (mem_of_lookup hvalue)

/-- A reader of values that are given at most `n` characters. -/
def Narrows (n : Nat) (reader : Reader Json) : Prop :=
  ∀ cs json rest, reader cs = .ok (json, rest) → cs.length ≤ n →
    rest.length ≤ cs.length ∧ Narrow n json

variable {n : Nat} {item : Reader Json}

/-- Numbers are plain. -/
theorem narrows_unsigned (negative : Bool) :
    Narrows n (unsigned negative) := by
  intro cs json rest h _
  obtain ⟨⟨whole, first⟩, hwhole, h⟩ := exists_of_bind h
  obtain ⟨⟨fraction, second⟩, hfraction, h⟩ := exists_of_bind h
  obtain ⟨⟨exponent, third⟩, hexponent, h⟩ := exists_of_bind h
  have hfirst := shortens_wholePart _ _ _ hwhole
  have hsecond := shortens_fractionPart _ _ _ hfraction
  have hthird := shortens_exponentPart _ _ _ hexponent
  dsimp only at h
  split at h
  · cases h
  · cases h
    exact ⟨by omega, narrow_of_isPlain rfl⟩

/-- So are the words for plain values. -/
theorem narrows_keyword {word : List Char} {json : Json}
    (hjson : json.isPlain = true) : Narrows n (keyword json word) := by
  intro cs a rest h hn
  fun_induction keyword json word cs with
  | case1 =>
      cases h
      exact ⟨Nat.le_refl _, narrow_of_isPlain hjson⟩
  | case2 | case4 => cases h
  | case3 ks c after ih =>
      obtain ⟨hrest, hnarrow⟩ := ih h (Nat.le_of_succ_le hn)
      exact ⟨Nat.le_succ_of_le hrest, hnarrow⟩

/-- The loop has a bound to begin with, and each item takes one off it. -/
theorem length_arrayRest (hitem : Narrows n item) {bound cs rest : List Char}
    {seen items : List Json}
    (h : arrayRest item bound seen cs = .ok (items, rest))
    (hn : cs.length ≤ n) :
    rest.length ≤ cs.length ∧ items.length ≤ seen.length + bound.length := by
  fun_induction arrayRest item bound seen cs with
  | case1 | case2 | case3 | case5 | case6 | case8 => cases h
  | case4 seen cs b bound value after hread later hspace =>
      have hrest := (hitem cs value after hread hn).1
      have hskip := length_skipSpace after
      rw [hspace] at hskip
      cases h
      simp only [List.length_cons, List.length_reverse] at *
      omega
  | case7 seen cs b bound value after hread more hspace _ _ ih =>
      have hrest := (hitem cs value after hread hn).1
      have hskip := length_skipSpace after
      have hmore := length_skipSpace more
      rw [hspace] at hskip
      simp only [List.length_cons] at *
      have := ih h (by omega)
      omega

/-- A member of an object is read within what is left, and its value is
narrow. -/
theorem narrow_member (hitem : Narrows n item) {cs rest : List Char}
    {entry : String × Json} (h : member item cs = .ok (entry, rest))
    (hn : cs.length ≤ n) : rest.length ≤ cs.length ∧ Narrow n entry.2 := by
  unfold member at h
  split at h
  · next after =>
    obtain ⟨⟨key, behind⟩, hkey, h⟩ := exists_of_bind h
    have hafter := shortens_stringRest _ _ _ _ hkey
    have hskip := length_skipSpace behind
    dsimp only at h
    split at h
    · cases h
    · next first hspace =>
      obtain ⟨⟨value, later⟩, hvalue, h⟩ := exists_of_bind h
      cases h
      rw [hspace] at hskip
      simp only [List.length_cons] at *
      obtain ⟨hrest, hnarrow⟩ := hitem _ _ _ hvalue (by omega)
      exact ⟨by omega, hnarrow⟩
    · cases h
  · cases h

/-- The members that follow are narrow if those before them are. -/
theorem narrow_objectRest (hitem : Narrows n item) {bound cs rest : List Char}
    {seen members : List (String × Json)}
    (h : objectRest item bound seen cs = .ok (members, rest))
    (hn : cs.length ≤ n)
    (hseen : ∀ entry ∈ seen, Narrow n entry.2) :
    rest.length ≤ cs.length ∧ ∀ entry ∈ members, Narrow n entry.2 := by
  fun_induction objectRest item bound seen cs with
  | case4 seen cs b bound entry after hread later hspace =>
      obtain ⟨hrest, hentry⟩ := narrow_member hitem hread hn
      have hskip := length_skipSpace after
      rw [hspace] at hskip
      cases h
      simp only [List.length_cons] at hskip
      refine ⟨by omega, fun entry hmem => ?_⟩
      rcases List.mem_cons.mp (List.mem_reverse.mp hmem) with rfl | hmem
      · exact hentry
      · exact hseen entry hmem
  | case6 seen cs b bound entry after hread more hspace _ ih =>
      obtain ⟨hrest, hentry⟩ := narrow_member hitem hread hn
      have hskip := length_skipSpace after
      have hmore := length_skipSpace more
      rw [hspace] at hskip
      simp only [List.length_cons] at hskip
      obtain ⟨hlater, hmembers⟩ := ih h (by omega)
        (List.forall_mem_cons.mpr ⟨hentry, hseen⟩)
      exact ⟨by omega, hmembers⟩
  | _ => cases h

/-- What stands behind a first character is shorter. -/
theorem narrow_behind {reader : Reader Json} (hreader : Narrows n reader)
    {cs after rest : List Char} {c : Char} {json : Json}
    (h : reader after = .ok (json, rest)) (hcs : skipSpace cs = c :: after)
    (hn : cs.length ≤ n) : rest.length ≤ cs.length ∧ Narrow n json := by
  have hskip := length_skipSpace cs
  rw [hcs, List.length_cons] at hskip
  obtain ⟨hrest, hnarrow⟩ := hreader after json rest h (by omega)
  exact ⟨by omega, hnarrow⟩

theorem narrows_string : Narrows n fun cs =>
    (stringRest [] cs).map fun (text, after) => (string text, after) := by
  intro cs json rest h _
  obtain ⟨⟨text, after⟩, hread, h⟩ := exists_of_map h
  cases h
  exact ⟨shortens_stringRest _ _ _ _ hread, narrow_of_isPlain rfl⟩

/-- An array takes a character for each of its items, so it has no more
than there are characters. -/
theorem narrows_items (hitem : Narrows n item) : Narrows n fun cs =>
    (arrayRest item cs [] cs).map
      fun (items, after) => (array items, after) := by
  intro cs json rest h hn
  obtain ⟨⟨items, after⟩, hread, h⟩ := exists_of_map h
  cases h
  obtain ⟨hrest, hitems⟩ := length_arrayRest hitem hread hn
  rw [List.length_nil, Nat.zero_add] at hitems
  exact ⟨hrest, narrow_array (Nat.le_trans hitems hn)⟩

/-- An object is read as a narrow one if its values are. -/
theorem narrows_members (hitem : Narrows n item) : Narrows n fun cs =>
    (objectRest item cs [] cs).map
      fun (members, after) => (object members, after) := by
  intro cs json rest h hn
  obtain ⟨⟨members, after⟩, hread, h⟩ := exists_of_map h
  cases h
  obtain ⟨hrest, hmembers⟩ := narrow_objectRest hitem hread hn (by simp)
  exact ⟨hrest, narrow_object hmembers⟩

/-- The depth of a value does not matter: whatever is inside it is read in
the same way. -/
theorem narrows_value (n depth : Nat) : Narrows n (value depth) := by
  induction depth with
  | zero =>
      intro cs json rest h
      cases h
  | succ depth ih =>
      intro cs json rest h hn
      rw [value] at h
      split at h
      · cases h
      · next hcs => exact narrow_behind (narrows_keyword rfl) h hcs hn
      · next hcs => exact narrow_behind (narrows_keyword rfl) h hcs hn
      · next hcs => exact narrow_behind (narrows_keyword rfl) h hcs hn
      · next hcs => exact narrow_behind narrows_string h hcs hn
      · next hcs => exact narrow_behind (narrows_unsigned true) h hcs hn
      · next after hcs =>
        have hskip := length_skipSpace cs
        have hafter := length_skipSpace after
        rw [hcs, List.length_cons] at hskip
        split at h
        · cases h
        split at h
        · cases h
        · next hclosed =>
          cases h
          rw [hclosed, List.length_cons] at hafter
          exact ⟨by omega, narrow_array (Nat.zero_le n)⟩
        · obtain ⟨hrest, hnarrow⟩ :=
            narrows_items ih _ _ _ h (Nat.le_trans hafter (by omega))
          exact ⟨by omega, hnarrow⟩
      · next after hcs =>
        have hskip := length_skipSpace cs
        have hafter := length_skipSpace after
        rw [hcs, List.length_cons] at hskip
        split at h
        · cases h
        split at h
        · cases h
        · next hclosed =>
          cases h
          rw [hclosed, List.length_cons] at hafter
          exact ⟨by omega, narrow_object (by simp)⟩
        · obtain ⟨hrest, hnarrow⟩ :=
            narrows_members ih _ _ _ h (Nat.le_trans hafter (by omega))
          exact ⟨by omega, hnarrow⟩
      · next hcs =>
        have hskip := length_skipSpace cs
        rw [hcs] at hskip
        split at h
        · obtain ⟨hrest, hnarrow⟩ :=
            narrows_unsigned false _ _ _ h (Nat.le_trans hskip hn)
          exact ⟨Nat.le_trans hrest hskip, hnarrow⟩
        · cases h

/-- No list that the keys of a document lead to is longer than its text. -/
theorem narrow_parse {text : String} {document : Json}
    (h : parse text = .ok document) : Narrow text.length document := by
  obtain ⟨⟨found, rest⟩, hread, h⟩ := exists_of_bind h
  dsimp only at h
  split at h
  · cases h
    exact (narrows_value text.length 128 _ _ _ hread
      (Nat.le_of_eq text.length_toList)).2
  · cases h

end Json

end SchemaDocs
