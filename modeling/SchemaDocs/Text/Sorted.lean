/-
Texts in code point order.

Wherever an answer shows an order that is not the schema's own, it is the
order of code points, which is also the order of UTF-8 bytes.
-/

namespace SchemaDocs.Text

/-- The same texts, least first; equal texts keep their number. -/
def sorted (texts : List String) : List String :=
  texts.mergeSort fun a b => decide (a ≤ b)

/-- Sorting neither drops nor adds a text. -/
theorem sorted_perm (texts : List String) : (sorted texts).Perm texts :=
  List.mergeSort_perm texts _

/-- One text is sorted. -/
theorem sorted_singleton (text : String) : sorted [text] = [text] :=
  List.mergeSort_singleton text

/-- A sorted list is in code point order. -/
theorem pairwise_sorted (texts : List String) :
    (sorted texts).Pairwise (· ≤ ·) := by
  have h : (sorted texts).Pairwise fun a b => decide (a ≤ b) = true :=
    List.pairwise_mergeSort
      (fun a b c hab hbc => by
        simp only [decide_eq_true_eq] at hab hbc ⊢
        exact String.le_trans hab hbc)
      (fun a b => by
        simp only [Bool.or_eq_true, decide_eq_true_eq]
        exact String.le_total a b)
      texts
  exact h.imp fun hab => of_decide_eq_true hab

/-- The order leaves no choice: texts in order are their sorted form. -/
theorem sorted_eq {texts ordered : List String} (hperm : ordered.Perm texts)
    (h : ordered.Pairwise (· ≤ ·)) : sorted texts = ordered :=
  List.Perm.eq_of_pairwise (fun _ _ _ _ => String.le_antisymm)
    (pairwise_sorted texts) h ((sorted_perm texts).trans hperm.symm)

/-- However texts were given, they have one sorted form. -/
theorem sorted_congr {a b : List String} (h : a.Perm b) :
    sorted a = sorted b :=
  sorted_eq ((sorted_perm b).trans h.symm) (pairwise_sorted b)

/-- Sorting what items show puts the items themselves in some order. -/
theorem exists_sorted_map {α : Type} (f : α → String) (items : List α) :
    ∃ ordered : List α,
      ordered.Perm items ∧ sorted (items.map f) = ordered.map f := by
  refine ⟨items.mergeSort fun a b => decide (f a ≤ f b),
    List.mergeSort_perm _ _, ?_⟩
  exact (List.map_mergeSort (f := f) fun _ _ _ _ => rfl).symm

end SchemaDocs.Text
