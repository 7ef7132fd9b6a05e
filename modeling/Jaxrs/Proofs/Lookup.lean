/-!
Lists of keys and values. Taking keys away leaves what is under the others (`lookup_filter`), and so
putting a value under a key, in place of the one that was there, changes nothing else
(`lookup_put_of_ne`).
-/

set_option autoImplicit false

namespace Jaxrs

variable {κ α : Type} [BEq κ] [LawfulBEq κ] {key other : κ}

theorem lookup_filter (keep : κ → Bool) (h : keep key = true) (entries : List (κ × α)) :
    (entries.filter (keep ·.1)).lookup key = entries.lookup key := by
  induction entries with
  | nil => rfl
  | cons entry rest ih =>
    by_cases hentry : keep entry.1 = true
    · rw [List.filter_cons_of_pos (by exact hentry), List.lookup_cons, List.lookup_cons, ih]
    · have hne : (key == entry.1) = false := by
        rw [beq_eq_false_iff_ne]
        rintro rfl
        exact hentry h
      rw [List.filter_cons_of_neg (by exact hentry), ih, List.lookup_cons, hne]

theorem lookup_filter_self (key : κ) (entries : List (κ × α)) :
    (entries.filter (·.1 != key)).lookup key = none := by
  rw [List.lookup_eq_none_iff]
  intro entry hentry
  have hne : entry.1 ≠ key := by simpa using (List.mem_filter.mp hentry).2
  exact bne_iff_ne.mpr hne.symm

theorem lookup_put_self (key : κ) (value : α) (entries : List (κ × α)) :
    (entries.filter (·.1 != key) ++ [(key, value)]).lookup key = some value := by
  rw [List.lookup_append, lookup_filter_self]
  simp

theorem lookup_put_of_ne (h : other ≠ key) (value : α) (entries : List (κ × α)) :
    (entries.filter (·.1 != key) ++ [(key, value)]).lookup other = entries.lookup other := by
  have hne : (other == key) = false := by simpa using h
  rw [List.lookup_append, lookup_filter (· != key) (bne_iff_ne.mpr h)]
  simp [List.lookup_cons, hne]

end Jaxrs
