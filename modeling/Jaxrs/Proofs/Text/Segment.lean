import Jaxrs.Text.Segment
import Mathlib.Data.List.TakeDrop

/-!
Laws of cutting and joining. A text without a separator is its own only segment, and cutting at a
separator splits the segments before it from those after it (`cut_append_cons`). Cutting and joining
undo each other (`joinWith_segments`, `segments_joinWith`). `splitLast_cases` says what the last
separator of a text does to it.
-/

set_option autoImplicit false

namespace Jaxrs.Text

variable {isCut : Char → Bool}

theorem exists_cut_eq_cons (isCut : Char → Bool) (s : List Char) :
    ∃ first others, cut isCut s = first :: others := by
  cases s with
  | nil => exact ⟨[], [], rfl⟩
  | cons c rest =>
    rw [cut]
    split
    · exact ⟨_, _, rfl⟩
    · split <;> exact ⟨_, _, rfl⟩

theorem cut_cons_of_cut {c : Char} (hc : isCut c = true) (rest : List Char) :
    cut isCut (c :: rest) = [] :: cut isCut rest := by
  rw [cut, if_pos hc]

theorem cut_cons_of_not_cut {c : Char} (hc : isCut c = false) (rest : List Char) :
    ∃ first others, cut isCut rest = first :: others ∧
      cut isCut (c :: rest) = (c :: first) :: others := by
  obtain ⟨first, others, hrest⟩ := exists_cut_eq_cons isCut rest
  refine ⟨first, others, hrest, ?_⟩
  rw [cut, hrest]
  simp [hc]

theorem cut_eq_singleton {s : List Char} (hs : ∀ c ∈ s, isCut c = false) :
    cut isCut s = [s] := by
  induction s with
  | nil => rfl
  | cons c rest ih =>
    have hrest := ih fun d hd ↦ hs d (List.mem_cons_of_mem c hd)
    obtain ⟨first, others, hcut, heq⟩ :=
      cut_cons_of_not_cut (hs c List.mem_cons_self) rest
    rw [hrest] at hcut
    obtain ⟨rfl, rfl⟩ := List.cons.inj hcut
    exact heq

theorem cut_append_cons {c : Char} (hc : isCut c = true) (a b : List Char) :
    cut isCut (a ++ c :: b) = cut isCut a ++ cut isCut b := by
  induction a with
  | nil => rw [List.nil_append, cut_cons_of_cut hc]; rfl
  | cons d rest ih =>
    rw [List.cons_append]
    cases hd : isCut d with
    | true => rw [cut_cons_of_cut hd, cut_cons_of_cut hd, ih, List.cons_append]
    | false =>
      obtain ⟨first, others, hrest, hcons⟩ := cut_cons_of_not_cut hd rest
      obtain ⟨first', others', hrest', hcons'⟩ := cut_cons_of_not_cut hd (rest ++ c :: b)
      rw [ih, hrest, List.cons_append] at hrest'
      obtain ⟨rfl, rfl⟩ := List.cons.inj hrest'
      rw [hcons, hcons', List.cons_append]

/-- Characters that do not cut only make the last stretch longer. -/
theorem exists_cut_eq_concat (isCut : Char → Bool) (s : List Char) : ∃ front last,
    ∀ t, (∀ c ∈ t, isCut c = false) → cut isCut (s ++ t) = front ++ [last ++ t] := by
  induction s with
  | nil => exact ⟨[], [], fun _ ht ↦ cut_eq_singleton ht⟩
  | cons d rest ih =>
    obtain ⟨front, last, hrest⟩ := ih
    cases hd : isCut d with
    | true =>
      refine ⟨[] :: front, last, fun t ht ↦ ?_⟩
      rw [List.cons_append, cut_cons_of_cut hd, hrest t ht, List.cons_append]
    | false =>
      cases front with
      | nil =>
        refine ⟨[], d :: last, fun t ht ↦ ?_⟩
        simp [cut, hd, hrest t ht]
      | cons first front =>
        refine ⟨(d :: first) :: front, last, fun t ht ↦ ?_⟩
        simp [cut, hd, hrest t ht]

/-- The stretches hold every character but the separators. -/
theorem flatten_cut (s : List Char) : (cut isCut s).flatten = s.filter (!isCut ·) := by
  induction s with
  | nil => rfl
  | cons c rest ih =>
    by_cases hc : isCut c = true
    · rw [cut_cons_of_cut hc, List.flatten_cons, ih, List.nil_append, List.filter_cons_of_neg]
      simp [hc]
    · obtain ⟨first, others, hrest, hcons⟩ :=
        cut_cons_of_not_cut (Bool.eq_false_iff.mpr hc) rest
      rw [hrest] at ih
      rw [hcons, List.filter_cons_of_pos (by simp [hc]), ← ih]
      rfl

theorem not_cut_of_mem_cut {s w : List Char} (hw : w ∈ cut isCut s) :
    ∀ c ∈ w, isCut c = false := by
  induction s generalizing w with
  | nil =>
    rw [cut, List.mem_singleton] at hw
    simp [hw]
  | cons d rest ih =>
    cases hd : isCut d with
    | true =>
      rw [cut_cons_of_cut hd, List.mem_cons] at hw
      rcases hw with rfl | hw
      · simp
      · exact ih hw
    | false =>
      obtain ⟨first, others, hrest, hcons⟩ := cut_cons_of_not_cut hd rest
      rw [hcons, List.mem_cons] at hw
      rcases hw with rfl | hw
      · intro c hc
        rcases List.mem_cons.mp hc with rfl | hc
        · exact hd
        · exact ih (hrest ▸ List.mem_cons_self) c hc
      · exact ih (hrest ▸ List.mem_cons_of_mem first hw)

private theorem prefix_and_infix_of_cut {s first : List Char} {others : List (List Char)}
    (h : cut isCut s = first :: others) : first <+: s ∧ ∀ w ∈ others, w <:+: s := by
  induction s generalizing first others with
  | nil =>
    obtain ⟨rfl, rfl⟩ := List.cons.inj h
    simp
  | cons d rest ih =>
    obtain ⟨head, tail, hrest⟩ := exists_cut_eq_cons isCut rest
    obtain ⟨hhead, htail⟩ := ih hrest
    cases hd : isCut d with
    | true =>
      rw [cut_cons_of_cut hd, hrest] at h
      obtain ⟨rfl, rfl⟩ := List.cons.inj h
      refine ⟨List.nil_prefix, fun w hw ↦ List.infix_cons ?_⟩
      rcases List.mem_cons.mp hw with rfl | hw
      · exact hhead.isInfix
      · exact htail w hw
    | false =>
      obtain ⟨_, _, hrest', hcons⟩ := cut_cons_of_not_cut hd rest
      rw [hrest] at hrest'
      obtain ⟨rfl, rfl⟩ := List.cons.inj hrest'
      rw [hcons] at h
      obtain ⟨rfl, rfl⟩ := List.cons.inj h
      exact ⟨List.cons_prefix_cons.mpr ⟨rfl, hhead⟩, fun w hw ↦ List.infix_cons (htail w hw)⟩

theorem isInfix_of_mem_cut {s w : List Char} (hw : w ∈ cut isCut s) : w <:+: s := by
  obtain ⟨first, others, hcut⟩ := exists_cut_eq_cons isCut s
  obtain ⟨hfirst, hothers⟩ := prefix_and_infix_of_cut hcut
  rw [hcut] at hw
  rcases List.mem_cons.mp hw with rfl | hw
  · exact hfirst.isInfix
  · exact hothers w hw

theorem not_mem_of_mem_segments {separator : Char} {s w : String} (hw : w ∈ segments separator s) :
    separator ∉ w.toList := by
  obtain ⟨chars, hchars, rfl⟩ := List.mem_map.mp hw
  rw [String.toList_ofList]
  intro hmem
  exact absurd (not_cut_of_mem_cut hchars separator hmem) (by simp)

theorem segments_eq_singleton {separator : Char} {s : String} (hs : separator ∉ s.toList) :
    segments separator s = [s] := by
  rw [segments, cut_eq_singleton]
  · simp
  · intro c hc
    simpa using fun heq : c = separator ↦ hs (heq ▸ hc)

/-! The texts that names and paths are joined with, as separators. -/

theorem dot_eq_singleton : "." = String.singleton '.' := by
  decide

theorem slash_eq_singleton : "/" = String.singleton '/' := by
  decide

theorem segments_append (separator : Char) (a b : String) :
    segments separator (a ++ String.singleton separator ++ b) =
      segments separator a ++ segments separator b := by
  have hlist : (a ++ String.singleton separator ++ b).toList =
      a.toList ++ separator :: b.toList := by simp
  rw [segments, hlist, cut_append_cons (by simp), List.map_append]
  rfl

theorem joinWith_cons (separator s : String) {rest : List String} (h : rest ≠ []) :
    joinWith separator (s :: rest) = s ++ separator ++ joinWith separator rest := by
  cases rest with
  | nil => exact absurd rfl h
  | cons t rest => rfl

private theorem toList_joinWith_cut {separator : Char} (s : List Char) :
    (joinWith (String.singleton separator)
      ((cut (· == separator) s).map String.ofList)).toList = s := by
  induction s with
  | nil => rfl
  | cons c rest ih =>
    by_cases hc : c = separator
    · have hne : (cut (· == separator) rest).map String.ofList ≠ [] := by
        obtain ⟨first, others, hcut⟩ := exists_cut_eq_cons (· == separator) rest
        simp [hcut]
      rw [cut_cons_of_cut (by simpa using hc), List.map_cons, joinWith_cons _ _ hne]
      simp [ih, hc]
    · obtain ⟨first, others, hrest, hcons⟩ : ∃ first others,
          cut (· == separator) rest = first :: others ∧
            cut (· == separator) (c :: rest) = (c :: first) :: others :=
        cut_cons_of_not_cut (by simpa using hc) rest
      rw [hrest] at ih
      rw [hcons]
      cases others with
      | nil =>
        have hfirst : first = rest := by simpa [joinWith] using ih
        simp [joinWith, hfirst]
      | cons second others =>
        have hsplit := ih
        simp only [List.map_cons, joinWith, String.toList_append, String.toList_ofList] at hsplit
        simp [joinWith, ← hsplit]

/-- The segments of a text with the separator between them are the text again. -/
theorem joinWith_segments (separator : Char) (s : String) :
    joinWith (String.singleton separator) (segments separator s) = s := by
  rw [← String.toList_inj, segments, toList_joinWith_cut]

/-- Texts without a separator are the segments of what they are joined to. -/
theorem segments_joinWith {separator : Char} {l : List String} (hl : l ≠ [])
    (h : ∀ s ∈ l, separator ∉ s.toList) :
    segments separator (joinWith (String.singleton separator) l) = l := by
  induction l with
  | nil => exact absurd rfl hl
  | cons s rest ih =>
    have hs := segments_eq_singleton (h s List.mem_cons_self)
    by_cases hrest : rest = []
    · subst hrest
      exact hs
    · rw [joinWith_cons _ _ hrest, segments_append, hs,
        ih hrest fun t ht ↦ h t (List.mem_cons_of_mem s ht), List.singleton_append]

/-- Either there is no separator, or the text is cut at one that no other follows. -/
theorem splitLast_cases (separator : Char) (s : String) :
    (separator ∉ s.toList ∧ splitLast separator s = (none, s)) ∨
      ∃ before last : String, s = before ++ String.singleton separator ++ last ∧
        separator ∉ last.toList ∧ splitLast separator s = (some before, last) := by
  rw [splitLast, List.span_eq_takeWhile_dropWhile]
  have hsplit := List.takeWhile_append_dropWhile (p := (· != separator)) (l := s.toList.reverse)
  have htake : separator ∉ s.toList.reverse.takeWhile (· != separator) := by
    intro hmem
    have hall := List.all_takeWhile (p := (· != separator)) (l := s.toList.reverse)
    simpa using List.all_eq_true.mp hall separator hmem
  cases hdrop : s.toList.reverse.dropWhile (· != separator) with
  | nil =>
    rw [hdrop, List.append_nil] at hsplit
    rw [hsplit, List.mem_reverse] at htake
    exact Or.inl ⟨htake, rfl⟩
  | cons c rest =>
    have hc : c = separator := by
      have hhead := List.head?_dropWhile_not (· != separator) s.toList.reverse
      simpa [hdrop] using hhead
    subst hc
    refine Or.inr ⟨String.ofList rest.reverse,
      String.ofList (s.toList.reverse.takeWhile (· != c)).reverse, ?_, ?_, rfl⟩
    · rw [hdrop] at hsplit
      have hlist := congrArg List.reverse hsplit
      rw [List.reverse_reverse, List.reverse_append, List.reverse_cons] at hlist
      rw [← String.toList_inj]
      simpa using hlist.symm
    · simpa using htake

theorem splitLast_append {separator : Char} (before : String) {last : String}
    (h : separator ∉ last.toList) :
    splitLast separator (before ++ String.singleton separator ++ last) = (some before, last) := by
  rcases splitLast_cases separator (before ++ String.singleton separator ++ last) with
    ⟨hnone, _⟩ | ⟨before', last', heq, h', hsplit⟩
  · exact absurd (by simp) hnone
  · have hsegments := congrArg (segments separator) heq
    rw [segments_append, segments_append, segments_eq_singleton h, segments_eq_singleton h']
      at hsegments
    obtain rfl : last = last' := by
      simpa using (List.append_inj' hsegments rfl).2
    obtain rfl : before = before' := by
      simpa using heq
    exact hsplit

end Jaxrs.Text
