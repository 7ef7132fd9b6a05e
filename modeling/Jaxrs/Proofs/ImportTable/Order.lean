import Jaxrs.Proofs.ImportTable
import Jaxrs.Proofs.Sorting
import Mathlib.Data.List.Sort
import Mathlib.Data.Prod.Lex
import Mathlib.Data.String.Basic

/-!
Names put in order. Sorted names of which only the first of equal ones stays are in strictly
increasing order (`pairwise_lt_sortedNames`), and that order has only one list for a set of names
(`sortedNames_congr`). Imports are ordered by the key `ImportTable.importKey`, the name without
regard to case and then the name itself.
-/

set_option autoImplicit false

namespace Jaxrs

/-- Of names in order, the first of each run of equal ones stays. -/
theorem pairwise_lt_eraseDups {names : List String} (h : names.Pairwise (· ≤ ·)) :
    names.eraseDups.Pairwise (· < ·) := by
  match names, h with
  | [], _ => exact List.Pairwise.nil
  | first :: rest, h =>
    obtain ⟨hfirst, hrest⟩ := List.pairwise_cons.mp h
    have hlength := List.length_filter_le (fun name ↦ !name == first) rest
    rw [List.eraseDups_cons]
    refine List.pairwise_cons.mpr ⟨fun name hname ↦ ?_, pairwise_lt_eraseDups (hrest.filter _)⟩
    obtain ⟨hmem, hne⟩ := List.mem_filter.mp (List.mem_eraseDups.mp hname)
    have hdistinct : name ≠ first := by simpa using hne
    exact lt_of_le_of_ne (hfirst name hmem) hdistinct.symm
termination_by names.length
decreasing_by
  rw [List.length_cons]
  omega

theorem pairwise_lt_sortedNames (names : List String) : (sortedNames names).Pairwise (· < ·) := by
  have hle (a b : String) : decide (a ≤ b) = true ↔ a ≤ b := decide_eq_true_iff
  exact pairwise_lt_eraseDups (pairwise_mergeSort_key hle names)

theorem sortedNames_eq_insertionSort (names : List String) :
    sortedNames names = (names.insertionSort (· ≤ ·)).eraseDups := by
  have hle (a b : String) : decide (a ≤ b) = true ↔ a ≤ b := decide_eq_true_iff
  exact congrArg List.eraseDups (mergeSort_eq_insertionSort_key hle Function.injective_id names)

/-- The order of the names and how often each occurs do not matter. -/
theorem sortedNames_congr {names names' : List String} (h : ∀ name, name ∈ names ↔ name ∈ names') :
    sortedNames names = sortedNames names' := by
  refine (pairwise_lt_sortedNames names).eq_of_mem_iff (pairwise_lt_sortedNames names') ?_
  intro name
  rw [mem_sortedNames, mem_sortedNames, h]

namespace ImportTable

/-- Imports are in the order of these keys. -/
def importKey (name : String) : String ×ₗ String :=
  toLex (lowerCase name, name)

theorem importKey_injective : Function.Injective importKey := by
  intro a b h
  exact congrArg (fun key ↦ (ofLex key).2) h

theorem importOrder_iff (a b : String) : importOrder a b = true ↔ importKey a ≤ importKey b := by
  rw [importOrder, importKey, importKey, Prod.Lex.toLex_le_toLex]
  by_cases hcase : lowerCase a = lowerCase b
  · simp [hcase]
  · simp [hcase, le_iff_lt_or_eq]

theorem mergeSort_importOrder (names : List String) :
    names.mergeSort importOrder = names.insertionSort fun a b ↦ importKey a ≤ importKey b :=
  mergeSort_eq_insertionSort_key importOrder_iff importKey_injective names

end ImportTable

end Jaxrs
