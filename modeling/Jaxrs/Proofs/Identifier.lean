import Jaxrs.Identifier
import Jaxrs.Proofs.Text.Segment

/-!
Identifiers and qualified names. Two qualified names with a dot between them are one, an identifier
holds no dot, and the simple name of a qualified name is an identifier. `splitQualified_cases` says
what the owner and the simple name of any name are.
-/

set_option autoImplicit false

namespace Jaxrs

namespace Identifier

theorem isPart_of_isStart {c : Char} (hc : isStart c = true) : isPart c = true := by
  rw [isPart, hc, Bool.true_or]

theorem isStart_eq_false_of_isDigit {c : Char} (h : c.isDigit = true) : isStart c = false := by
  by_contra hstart
  have hcases : (c.isAlpha = true ∨ c = '_') ∨ c = '$' := by
    simpa only [isStart, Bool.not_eq_false, Bool.or_eq_true, beq_iff_eq] using hstart
  rcases hcases with (halpha | rfl) | rfl
  · have hdigits : ∀ n ≤ 57, 48 ≤ n → (Char.ofNat n).isAlpha = false := by decide
    obtain ⟨hleast, hgreatest⟩ := Char.isDigit_iff_toNat.mp h
    have hnone := hdigits c.toNat hgreatest hleast
    rw [Char.ofNat_toNat, halpha] at hnone
    cases hnone
  · exact absurd h (by decide)
  · exact absurd h (by decide)

/-- A character of an identifier may stand at its start unless it is a digit. -/
theorem isStart_eq_not_isDigit {c : Char} (hc : isPart c = true) : isStart c = !c.isDigit := by
  cases hdigit : c.isDigit with
  | true => exact isStart_eq_false_of_isDigit hdigit
  | false => rwa [isPart, hdigit, Bool.or_false] at hc

theorem isPart_of_isShaped {s : List Char} (hs : isShaped s = true) :
    ∀ c ∈ s, isPart c = true := by
  cases s with
  | nil => simp
  | cons d rest =>
    obtain ⟨hd, hrest⟩ := Bool.and_eq_true_iff.mp hs
    intro c hc
    rcases List.mem_cons.mp hc with rfl | hc
    · exact isPart_of_isStart hd
    · exact List.all_eq_true.mp hrest c hc

theorem isShaped_append {s t : List Char} (hs : isShaped s = true)
    (ht : ∀ c ∈ t, isPart c = true) : isShaped (s ++ t) = true := by
  cases s with
  | nil => simp [isShaped] at hs
  | cons d rest =>
    obtain ⟨hd, hrest⟩ := Bool.and_eq_true_iff.mp hs
    rw [List.cons_append, isShaped, hd, List.all_append, hrest, Bool.true_and, Bool.true_and]
    exact List.all_eq_true.mpr ht

theorem isPart_iff {c : Char} :
    isPart c = true ↔ c.isAlpha = true ∨ c = '_' ∨ c = '$' ∨ c.isDigit = true := by
  simp [isPart, isStart, or_assoc]

theorem isShaped_iff {s : List Char} : isShaped s = true ↔
    s ≠ [] ∧ (∀ c ∈ s, isPart c = true) ∧ ∀ c ∈ s.head?, c.isDigit = false := by
  cases s with
  | nil => simp [isShaped]
  | cons c rest =>
    rw [isShaped, Bool.and_eq_true, List.all_eq_true, List.forall_mem_cons, List.head?_cons]
    constructor
    · rintro ⟨hstart, hrest⟩
      have hpart := isPart_of_isStart hstart
      rw [isStart_eq_not_isDigit hpart, Bool.not_eq_true'] at hstart
      refine ⟨List.cons_ne_nil c rest, ⟨hpart, hrest⟩, ?_⟩
      rintro d ⟨⟩
      exact hstart
    · rintro ⟨-, ⟨hpart, hrest⟩, hinitial⟩
      rw [isStart_eq_not_isDigit hpart, hinitial c rfl]
      exact ⟨rfl, hrest⟩

/-- What makes a text an identifier, part by part. -/
structure Legal (s : String) : Prop where
  ne_empty : s ≠ ""
  characters : ∀ c ∈ s.toList, c.isAlpha = true ∨ c = '_' ∨ c = '$' ∨ c.isDigit = true
  initial : ∀ c ∈ s.toList.head?, c.isDigit = false
  unreserved : s ∉ reservedWords

/-- The lone underscore is reserved. -/
theorem Legal.ne_underscore {s : String} (h : Legal s) : s ≠ "_" := by
  rintro rfl
  exact h.unreserved (by decide +kernel)

end Identifier

theorem isIdentifier_iff {s : String} :
    isIdentifier s = true ↔ Identifier.isShaped s.toList = true ∧ s ∉ reservedWords := by
  simp [isIdentifier, isReservedWord]

theorem isIdentifier_iff_legal {s : String} : isIdentifier s = true ↔ Identifier.Legal s := by
  rw [isIdentifier_iff, Identifier.isShaped_iff, ne_eq, String.toList_eq_nil_iff]
  simp only [Identifier.isPart_iff]
  constructor
  · rintro ⟨⟨hne, hchars, hinitial⟩, hunreserved⟩
    exact ⟨hne, hchars, hinitial, hunreserved⟩
  · intro h
    exact ⟨⟨h.ne_empty, h.characters, h.initial⟩, h.unreserved⟩

/-- No reserved word starts with an underscore and goes on after it. -/
theorem not_mem_reservedWords_of_underscore {s : List Char} (hs : s ≠ []) :
    String.ofList ('_' :: s) ∉ reservedWords := by
  have hunderscore : ∀ w ∈ reservedWords, w.toList.head? = some '_' → w.toList = ['_'] := by
    decide +kernel
  intro hmem
  have hchars := hunderscore _ hmem (by simp)
  rw [String.toList_ofList] at hchars
  exact hs (List.cons.inj hchars).2

/-- No reserved word ends with a digit. -/
theorem not_mem_reservedWords_of_digit {s : String} {c : Char} (hlast : s.toList.getLast? = some c)
    (hc : c.isDigit = true) : s ∉ reservedWords := by
  have hdigit : ∀ w ∈ reservedWords, w.toList.getLast?.any Char.isDigit = false := by decide +kernel
  intro hmem
  have hnone := hdigit s hmem
  rw [hlast, Option.any_some, hc] at hnone
  exact Bool.noConfusion hnone

/-- No reserved word starts with an upper-case letter. -/
theorem not_mem_reservedWords_of_isUpper {c : Char} {s : List Char} (hc : c.isUpper = true) :
    String.ofList (c :: s) ∉ reservedWords := by
  have hupper : ∀ w ∈ reservedWords, w.toList.head?.any Char.isUpper = false := by decide +kernel
  intro hmem
  have hnone := hupper _ hmem
  rw [String.toList_ofList, List.head?_cons, Option.any_some, hc] at hnone
  exact Bool.noConfusion hnone

theorem isPart_of_isIdentifier {s : String} (hs : isIdentifier s = true) :
    ∀ c ∈ s.toList, Identifier.isPart c = true :=
  Identifier.isPart_of_isShaped (isIdentifier_iff.mp hs).1

theorem not_mem_of_isIdentifier {s : String} {c : Char} (hs : isIdentifier s = true)
    (hc : Identifier.isPart c = false) : c ∉ s.toList := by
  intro hmem
  rw [isPart_of_isIdentifier hs c hmem] at hc
  exact Bool.noConfusion hc

theorem ne_empty_of_isIdentifier {s : String} (hs : isIdentifier s = true) : s ≠ "" := by
  rintro rfl
  exact Bool.false_ne_true hs

theorem isQualifiedName_iff {s : String} :
    isQualifiedName s = true ↔ ∀ w ∈ Text.segments '.' s, isIdentifier w = true :=
  List.all_eq_true

theorem isQualifiedName_of_isIdentifier {s : String} (hs : isIdentifier s = true) :
    isQualifiedName s = true := by
  rw [isQualifiedName_iff, Text.segments_eq_singleton (not_mem_of_isIdentifier hs (by decide))]
  simpa using hs

/-- The characters of the segments, and the dots between them. -/
theorem isPart_or_eq_dot_of_isQualifiedName {s : String} (hs : isQualifiedName s = true) :
    ∀ c ∈ s.toList, Identifier.isPart c = true ∨ c = '.' := by
  intro c hc
  by_cases hdot : c = '.'
  · exact Or.inr hdot
  have hflat : c ∈ (Text.cut (· == '.') s.toList).flatten := by
    rw [Text.flatten_cut, List.mem_filter]
    exact ⟨hc, by simpa using hdot⟩
  obtain ⟨w, hw, hcw⟩ := List.mem_flatten.mp hflat
  have hword := isQualifiedName_iff.mp hs (String.ofList w) (List.mem_map_of_mem hw)
  exact Or.inl (isPart_of_isIdentifier hword c (by rwa [String.toList_ofList]))

theorem not_isQualifiedName_of_mem_reservedWords {s : String} (hdot : '.' ∉ s.toList)
    (hs : s ∈ reservedWords) : ¬ isQualifiedName s = true := by
  intro hqualified
  have hidentifier : isIdentifier s = true := by
    refine isQualifiedName_iff.mp hqualified s ?_
    rw [Text.segments_eq_singleton hdot]
    exact List.mem_singleton_self s
  exact (isIdentifier_iff.mp hidentifier).2 hs

theorem isQualifiedName_append (a b : String) :
    isQualifiedName (a ++ "." ++ b) = (isQualifiedName a && isQualifiedName b) := by
  rw [isQualifiedName, Text.dot_eq_singleton, Text.segments_append, List.all_append]
  rfl

/-- A name without a dot has no owner; otherwise the simple name starts after the last dot. -/
theorem splitQualified_cases (name : String) :
    ('.' ∉ name.toList ∧ splitQualified name = ("", name)) ∨
      ∃ owner simple : String, name = owner ++ "." ++ simple ∧ '.' ∉ simple.toList ∧
        splitQualified name = (owner, simple) := by
  rcases Text.splitLast_cases '.' name with ⟨hdot, hsplit⟩ | ⟨owner, simple, hname, hdot, hsplit⟩
  · refine Or.inl ⟨hdot, ?_⟩
    simp [splitQualified, hsplit]
  · refine Or.inr ⟨owner, simple, hname, hdot, ?_⟩
    simp [splitQualified, hsplit]

theorem splitQualified_eq {name : String} (h : '.' ∉ name.toList) :
    splitQualified name = ("", name) := by
  rcases splitQualified_cases name with ⟨_, hsplit⟩ | ⟨owner, simple, hname, _⟩
  · exact hsplit
  · refine absurd ?_ h
    rw [hname]
    simp

/-- A name with an owner has a dot. -/
theorem mem_of_owner_ne_empty {name : String} (h : (splitQualified name).1 ≠ "") :
    '.' ∈ name.toList := by
  by_contra hdot
  rw [splitQualified_eq hdot] at h
  exact h rfl

theorem splitQualified_append (owner : String) {simple : String} (h : '.' ∉ simple.toList) :
    splitQualified (owner ++ "." ++ simple) = (owner, simple) := by
  rw [splitQualified, Text.dot_eq_singleton, Text.splitLast_append owner h]
  rfl

theorem simpleName_eq_self {name : String} (h : '.' ∉ name.toList) : simpleName name = name := by
  rw [simpleName, splitQualified_eq h]

theorem eq_owner_append {name : String} (h : (splitQualified name).1 ≠ "") :
    name = (splitQualified name).1 ++ "." ++ simpleName name := by
  rcases splitQualified_cases name with ⟨_, hsplit⟩ | ⟨owner, simple, hname, _, hsplit⟩
  · rw [hsplit] at h
    exact absurd rfl h
  · rw [simpleName, hsplit]
    exact hname

theorem not_mem_simpleName (name : String) : '.' ∉ (simpleName name).toList := by
  rcases splitQualified_cases name with ⟨hdot, hsplit⟩ | ⟨owner, simple, _, hdot, hsplit⟩
  · rw [simpleName, hsplit]
    exact hdot
  · rw [simpleName, hsplit]
    exact hdot

theorem isIdentifier_simpleName {name : String} (h : isQualifiedName name = true) :
    isIdentifier (simpleName name) = true := by
  have hsimple : isQualifiedName (simpleName name) = true := by
    rcases splitQualified_cases name with ⟨_, hsplit⟩ | ⟨owner, simple, hname, _, hsplit⟩
    · rw [simpleName, hsplit]
      exact h
    · rw [hname, isQualifiedName_append, Bool.and_eq_true] at h
      rw [simpleName, hsplit]
      exact h.2
  refine isQualifiedName_iff.mp hsimple _ ?_
  rw [Text.segments_eq_singleton (not_mem_simpleName name)]
  exact List.mem_singleton_self _

end Jaxrs
