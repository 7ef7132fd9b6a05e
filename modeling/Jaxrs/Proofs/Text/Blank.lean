import Jaxrs.Text.Blank
import Mathlib.Data.List.Infix
import Mathlib.Data.List.TakeWhile

/-!
Laws of trimming. A text is what trimming leaves of it with blanks around (`exists_blanks_around`),
and what is left neither starts nor ends with a blank. Blanks at an end make no difference to
trimming (`trimEnd_append_blanks`).
-/

set_option autoImplicit false

namespace Jaxrs.Text

variable {s blanks : List Char} {c : Char}

theorem exists_blanks_before (s : List Char) :
    ∃ blanks, s = blanks ++ trimStart s ∧ ∀ c ∈ blanks, isBlank c = true :=
  ⟨s.takeWhile isBlank, List.takeWhile_append_dropWhile.symm,
    List.all_eq_true.mp List.all_takeWhile⟩

theorem exists_blanks_after (s : List Char) :
    ∃ blanks, s = trimEnd s ++ blanks ∧ ∀ c ∈ blanks, isBlank c = true := by
  refine ⟨(s.reverse.takeWhile isBlank).reverse, ?_, fun c hc ↦ ?_⟩
  · rw [trimEnd, ← List.reverse_append, List.takeWhile_append_dropWhile, List.reverse_reverse]
  · exact List.all_eq_true.mp List.all_takeWhile c (List.mem_reverse.mp hc)

theorem exists_blanks_around (s : List Char) : ∃ before after, s = before ++ trim s ++ after ∧
    (∀ c ∈ before, isBlank c = true) ∧ ∀ c ∈ after, isBlank c = true := by
  obtain ⟨before, hstart, hbefore⟩ := exists_blanks_before s
  obtain ⟨after, hend, hafter⟩ := exists_blanks_after (trimStart s)
  refine ⟨before, after, ?_, hbefore, hafter⟩
  rw [List.append_assoc, trim, ← hend, ← hstart]

theorem trimEnd_isPrefix (s : List Char) : trimEnd s <+: s := by
  obtain ⟨blanks, hsplit, -⟩ := exists_blanks_after s
  exact ⟨blanks, hsplit.symm⟩

theorem trim_isInfix (s : List Char) : trim s <:+: s := by
  obtain ⟨before, after, hsplit, -⟩ := exists_blanks_around s
  exact ⟨before, after, hsplit.symm⟩

theorem isBlank_of_head?_trimStart (h : c ∈ (trimStart s).head?) : isBlank c = false := by
  have hfirst := List.head?_dropWhile_not isBlank s
  rw [trimStart] at h
  rwa [Option.mem_def.mp h] at hfirst

theorem isBlank_of_getLast?_trimEnd (h : c ∈ (trimEnd s).getLast?) : isBlank c = false := by
  rw [trimEnd, List.getLast?_reverse] at h
  exact isBlank_of_head?_trimStart h

theorem isBlank_of_head?_trim (h : c ∈ (trim s).head?) : isBlank c = false := by
  obtain ⟨rest, hrest⟩ := List.head?_eq_some_iff.mp (Option.mem_def.mp h)
  obtain ⟨blanks, hsplit, -⟩ := exists_blanks_after (trimStart s)
  refine isBlank_of_head?_trimStart (s := s) ?_
  rw [hsplit, ← trim, hrest]
  rfl

theorem trimEnd_eq_nil_iff : trimEnd s = [] ↔ ∀ c ∈ s, isBlank c = true := by
  rw [trimEnd, List.reverse_eq_nil_iff, List.dropWhile_eq_nil_iff]
  simp

theorem trimEnd_append_blanks (h : ∀ c ∈ blanks, isBlank c = true) :
    trimEnd (s ++ blanks) = trimEnd s := by
  have hreverse : blanks.reverse.dropWhile isBlank = [] :=
    List.dropWhile_eq_nil_iff.mpr fun c hc ↦ h c (List.mem_reverse.mp hc)
  rw [trimEnd, List.reverse_append, List.dropWhile_append, hreverse]
  rfl

theorem trimStart_append (s t : List Char) :
    trimStart (s ++ t) = if trimStart s = [] then trimStart t else trimStart s ++ t := by
  rw [trimStart, List.dropWhile_append]
  simp only [List.isEmpty_iff]
  rfl

theorem trimEnd_append (s t : List Char) :
    trimEnd (s ++ t) = if trimEnd t = [] then trimEnd s else s ++ trimEnd t := by
  rw [trimEnd, List.reverse_append, List.dropWhile_append]
  simp only [List.isEmpty_iff, trimEnd, List.reverse_eq_nil_iff]
  split_ifs
  · rfl
  · rw [List.reverse_append, List.reverse_reverse]

/-- Blanks are trimmed off unless there is more than blanks on either side of them. -/
theorem trim_append_blanks_append (s t : List Char) (h : ∀ c ∈ blanks, isBlank c = true) :
    trim (s ++ blanks ++ t) = if trimStart s = [] then trim t
      else if trimEnd t = [] then trim s else trimStart s ++ blanks ++ trimEnd t := by
  have hstart : trimStart blanks = [] := List.dropWhile_eq_nil_iff.mpr h
  have hend : trimEnd blanks = [] := trimEnd_eq_nil_iff.mpr h
  rw [trim, trim, trim, List.append_assoc, trimStart_append, trimStart_append blanks, if_pos hstart]
  split_ifs with hs ht
  · rfl
  · rw [trimEnd_append, trimEnd_append blanks, if_pos ht, if_pos hend]
  · rw [← List.append_assoc, trimEnd_append, if_neg ht]

theorem filter_trimEnd (s : List Char) :
    (trimEnd s).filter (! isBlank ·) = s.filter (! isBlank ·) := by
  obtain ⟨blanks, hsplit, hblanks⟩ := exists_blanks_after s
  have hnone : blanks.filter (! isBlank ·) = [] :=
    List.filter_eq_nil_iff.mpr fun c hc ↦ by simp [hblanks c hc]
  conv_rhs => rw [hsplit, List.filter_append, hnone, List.append_nil]

end Jaxrs.Text
