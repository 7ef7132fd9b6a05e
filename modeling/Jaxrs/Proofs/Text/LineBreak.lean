import Mathlib.Data.List.Basic

/-!
Texts read line by line. A text is cut at marks, each of which ends the stretch before it, and
`Text.stretches` has the stretches with their marks. If the lines of a text are on one line each
(`Text.Unbroken`) and all end alike, they are what it is cut into, both at this line ending
and at any (`Text.stretches_join`).
-/

set_option autoImplicit false

namespace Jaxrs.Text

/-- The text is on one line. -/
def Unbroken (s : String) : Prop :=
  '\r' ∉ s.toList ∧ '\n' ∉ s.toList

instance (s : String) : Decidable (Unbroken s) :=
  inferInstanceAs (Decidable (_ ∧ _))

/-- The marks are tried in order at each place; the characters skipped are those of the last
mark. -/
def stretchesFrom (marks : List (List Char)) : Nat → List Char → List (List Char × List Char)
  | _, [] => [([], [])]
  | skip + 1, _ :: rest => stretchesFrom marks skip rest
  | 0, c :: rest =>
    match marks.find? (·.isPrefixOf (c :: rest)) with
    | some mark => ([], mark) :: stretchesFrom marks (mark.length - 1) rest
    | none =>
      match stretchesFrom marks 0 rest with
      | [] => [([c], [])]
      | (first, mark) :: others => (c :: first, mark) :: others

/-- The stretches of a text with the marks that end them, the last stretch without one. -/
def stretches (marks : List String) (s : String) : List (String × String) :=
  (stretchesFrom (marks.map String.toList) 0 s.toList).map (Prod.map String.ofList String.ofList)

/-- The line endings, a carriage return with a line feed after it being a single one. -/
def lineEndings : List String :=
  ["\r\n", "\r", "\n"]

/-- What is between the occurrences of a mark. -/
def splitAt (mark s : String) : List String :=
  (stretches [mark] s).map Prod.fst

section Stretches

variable {marks : List (List Char)} {mark s t : List Char}

theorem stretchesFrom_skip (s t : List Char) :
    stretchesFrom marks s.length (s ++ t) = stretchesFrom marks 0 t := by
  induction s with
  | nil => rfl
  | cons c s ih => exact ih

theorem stretchesFrom_mark (hmark : mark ≠ [])
    (hfind : marks.find? (·.isPrefixOf (mark ++ t)) = some mark) :
    stretchesFrom marks 0 (mark ++ t) = ([], mark) :: stretchesFrom marks 0 t := by
  obtain ⟨c, rest, rfl⟩ := List.exists_cons_of_ne_nil hmark
  rw [List.cons_append] at hfind ⊢
  rw [stretchesFrom, hfind, ← stretchesFrom_skip rest t]
  rfl

/-- Characters that no mark begins with are part of the first stretch. -/
theorem stretchesFrom_append {first : List Char} {others : List (List Char × List Char)}
    (hs : ∀ c ∈ s, ∀ m ∈ marks, m ≠ [] ∧ m.head? ≠ some c)
    (ht : stretchesFrom marks 0 t = (first, mark) :: others) :
    stretchesFrom marks 0 (s ++ t) = (s ++ first, mark) :: others := by
  induction s with
  | nil => exact ht
  | cons c s ih =>
    obtain ⟨hc, hrest⟩ := List.forall_mem_cons.mp hs
    have hnone : marks.find? (·.isPrefixOf (c :: (s ++ t))) = none := by
      rw [List.find?_eq_none]
      intro m hm hprefix
      obtain ⟨d, m, rfl⟩ := List.exists_cons_of_ne_nil (hc m hm).1
      obtain ⟨rfl, -⟩ := List.cons_prefix_cons.mp (List.isPrefixOf_iff_prefix.mp hprefix)
      exact (hc _ hm).2 rfl
    rw [List.cons_append, stretchesFrom, hnone, ih hrest]
    rfl

end Stretches

/-- The line ending is the mark that fits where a line ends, and inside of a line none does. -/
structure Marks (marks : List String) (newline : String) : Prop where
  head : ∀ m ∈ marks, ∃ c rest, m.toList = c :: rest ∧ (c = '\r' ∨ c = '\n')
  first : ∀ rest, (marks.map String.toList).find? (·.isPrefixOf (newline.toList ++ rest)) =
    some newline.toList

theorem marks_singleton {newline : String} (h : newline = "\n" ∨ newline = "\r\n") :
    Marks [newline] newline := by
  rcases h with rfl | rfl
  · exact ⟨List.forall_mem_singleton.mpr ⟨'\n', [], rfl, Or.inr rfl⟩, fun _ ↦ rfl⟩
  · exact ⟨List.forall_mem_singleton.mpr ⟨'\r', ['\n'], rfl, Or.inl rfl⟩, fun _ ↦ rfl⟩

theorem marks_lineEndings {newline : String} (h : newline = "\n" ∨ newline = "\r\n") :
    Marks lineEndings newline where
  head := by
    simp [lineEndings]
  first rest := by
    rcases h with rfl | rfl <;> rfl

section Lines

variable {marks : List String} {newline s t : String}

theorem Marks.toList_ne_nil (h : Marks marks newline) : newline.toList ≠ [] := by
  obtain ⟨m, hm, hmark⟩ := List.mem_map.mp (List.mem_of_find?_eq_some (h.first []))
  obtain ⟨c, rest, hcons, -⟩ := h.head m hm
  rw [← hmark, hcons]
  exact List.cons_ne_nil c rest

theorem Marks.head?_ne (h : Marks marks newline) (hs : Unbroken s) :
    ∀ c ∈ s.toList, ∀ mark ∈ marks.map String.toList, mark ≠ [] ∧ mark.head? ≠ some c := by
  intro c hc mark hmark
  obtain ⟨m, hm, rfl⟩ := List.mem_map.mp hmark
  obtain ⟨d, rest, hcons, hd⟩ := h.head m hm
  rw [hcons]
  refine ⟨List.cons_ne_nil d rest, ?_⟩
  rintro ⟨rfl⟩
  rcases hd with rfl | rfl
  · exact hs.1 hc
  · exact hs.2 hc

theorem stretches_line (h : Marks marks newline) (hs : Unbroken s) :
    stretches marks (s ++ newline ++ t) = (s, newline) :: stretches marks t := by
  have hend := stretchesFrom_mark h.toList_ne_nil (h.first t.toList)
  have hline := stretchesFrom_append (h.head?_ne hs) hend
  rw [stretches, String.toList_append, String.toList_append, List.append_assoc, hline,
    List.map_cons, Prod.map_apply, List.append_nil, String.ofList_toList, String.ofList_toList]
  rfl

/-- Lines that are on one line each come out of their text as they are, each with its ending. -/
theorem stretches_join (h : Marks marks newline) {lines : List String}
    (hlines : ∀ l ∈ lines, Unbroken l) :
    stretches marks (String.join (lines.map (· ++ newline))) =
      lines.map (·, newline) ++ [("", "")] := by
  induction lines with
  | nil => rfl
  | cons l rest ih =>
    obtain ⟨hl, hrest⟩ := List.forall_mem_cons.mp hlines
    rw [List.map_cons, String.join_cons, stretches_line h hl, ih hrest]
    rfl

end Lines

/-- A line feed before a carriage return is a line ending of its own. -/
example : stretches lineEndings "a\r\nb\n\rc" =
    [("a", "\r\n"), ("b", "\n"), ("", "\r"), ("c", "")] := by
  decide +kernel

end Jaxrs.Text
