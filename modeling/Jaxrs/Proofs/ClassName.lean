import Jaxrs.ClassName
import Jaxrs.Proofs.Identifier
import Mathlib

/-!
Class names. Where a run of letters and digits is cut into words does not matter to most of what
holds of a class name, as long as the words are the run (`flatten_words`): `nameBy` is the class
name for any way of cutting. It is empty exactly if the name has no letter or digit
(`nameBy_eq_empty_iff`), and otherwise it starts with an upper-case letter, or with an underscore
that stands before a digit (`nameBy_cases`). No reserved word starts in either way, so that it is an
identifier (`isIdentifier_nameBy_append_iff`).
-/

set_option autoImplicit false

namespace Jaxrs.ClassName

theorem flatten_words (seen : LetterCase) (word run : List Char) :
    (words seen word run).flatten = word.reverse ++ run := by
  induction seen, word, run using words.induct with
  | case1 => simp [words]
  | case2 => simp [words]
  | case3 seen word c next rest h ih => simp [words, h, ih]
  | case4 seen word c next rest h h' ih => simp [words, h, h', ih]
  | case5 seen word c next rest h h' ih => simp [words, h, h', ih]

theorem capitalize_eq_nil_iff {word : List Char} : capitalize word = [] ↔ word = [] := by
  cases word with
  | nil => simp [capitalize]
  | cons c rest => simp [capitalize]

/-- What a class name starts with, before the underscore is put in front of a digit. -/
def isInitial (c : Char) : Bool :=
  c.isUpper || c.isDigit

theorem isInitial_toUpper {c : Char} (hc : c.isAlphanum = true) : isInitial c.toUpper = true := by
  rw [Char.isAlphanum, Bool.or_eq_true] at hc
  rw [isInitial, Bool.or_eq_true]
  rcases hc with halpha | hdigit
  · exact Or.inl ((Char.isUpper_toUpper_eq_isAlpha c).trans halpha)
  · have hlower : ¬ c.isLower = true := by
      simp only [Char.isDigit, Char.isLower, Bool.and_eq_true, decide_eq_true_eq,
        UInt32.le_iff_toNat_le] at hdigit ⊢
      simp at hdigit ⊢
      omega
    rw [Char.toUpper_eq_of_not_isLower hlower]
    exact Or.inr hdigit

theorem isAlphanum_of_isInitial {c : Char} (hc : isInitial c = true) : c.isAlphanum = true := by
  rw [isInitial, Bool.or_eq_true] at hc
  rw [Char.isAlphanum, Char.isAlpha]
  rcases hc with hupper | hdigit
  · rw [hupper, Bool.true_or, Bool.true_or]
  · rw [hdigit, Bool.or_true]

theorem isAlphanum_toLower {c : Char} (hc : c.isAlphanum = true) : c.toLower.isAlphanum = true := by
  rw [Char.isAlphanum, Bool.or_eq_true] at hc
  rw [Char.isAlphanum, Char.isAlpha_toLower_eq_isAlpha]
  rcases hc with halpha | hdigit
  · rw [halpha, Bool.true_or]
  · have hupper : ¬ c.isUpper = true := by
      simp only [Char.isDigit, Char.isUpper, Bool.and_eq_true, decide_eq_true_eq,
        UInt32.le_iff_toNat_le, ge_iff_le] at hdigit ⊢
      simp at hdigit ⊢
      omega
    rw [Char.toLower_eq_of_not_isUpper hupper, hdigit, Bool.or_true]

theorem isAlphanum_of_mem_capitalize {word : List Char} (hword : ∀ c ∈ word, c.isAlphanum = true) :
    ∀ c ∈ capitalize word, c.isAlphanum = true := by
  cases word with
  | nil => simp [capitalize]
  | cons d rest =>
    intro c hc
    rcases List.mem_cons.mp hc with rfl | hrest
    · exact isAlphanum_of_isInitial (isInitial_toUpper (hword d List.mem_cons_self))
    · obtain ⟨e, he, rfl⟩ := List.mem_map.mp hrest
      exact isAlphanum_toLower (hword e (List.mem_cons_of_mem d he))

theorem isInitial_of_mem_head?_capitalize {word : List Char}
    (hword : ∀ c ∈ word, c.isAlphanum = true) :
    ∀ c ∈ (capitalize word).head?, isInitial c = true := by
  cases word with
  | nil => simp [capitalize]
  | cons d rest =>
    intro c hc
    obtain rfl : d.toUpper = c := by simpa [capitalize] using hc
    exact isInitial_toUpper (hword d List.mem_cons_self)

private theorem mem_head?_flatMap {α β : Type} {f : α → List β} {l : List α} {b : β}
    (h : b ∈ (l.flatMap f).head?) : ∃ a ∈ l, b ∈ (f a).head? := by
  induction l with
  | nil => simp at h
  | cons a rest ih =>
    rw [List.flatMap_cons, List.head?_append] at h
    cases hhead : (f a).head? with
    | some d =>
      rw [hhead] at h
      exact ⟨a, List.mem_cons_self, hhead ▸ h⟩
    | none =>
      rw [hhead] at h
      obtain ⟨a', ha', hb⟩ := ih h
      exact ⟨a', List.mem_cons_of_mem a ha', hb⟩

theorem isPart_of_isAlphanum {c : Char} (hc : c.isAlphanum = true) :
    Identifier.isPart c = true := by
  rw [Char.isAlphanum, Bool.or_eq_true] at hc
  rw [Identifier.isPart, Identifier.isStart]
  rcases hc with halpha | hdigit
  · simp [halpha]
  · simp [hdigit]

/-! ### Names for any way of cutting a run -/

/-- The capitalized words of a name, where `split` gives the words of a run. -/
def camelBy (split : List Char → List (List Char)) (name : List Char) : List Char :=
  (Text.cut (! ·.isAlphanum) name).flatMap fun run ↦ (split run).flatMap capitalize

/-- The class name of a name, where `split` gives the words of a run. -/
def nameBy (split : List Char → List (List Char)) (name : String) : String :=
  match camelBy split name.toList with
  | [] => ""
  | c :: rest => String.ofList (if c.isDigit then '_' :: c :: rest else c :: rest)

theorem ofName_eq_nameBy : ofName = nameBy (words .boundary []) := rfl

section Split

variable {split : List Char → List (List Char)} (hsplit : ∀ run, (split run).flatten = run)

include hsplit

/-- The camel case of a name is empty if there is nothing in the name to make words of. -/
theorem camelBy_eq_nil_iff {name : List Char} :
    camelBy split name = [] ↔ ∀ c ∈ name, c.isAlphanum = false := by
  have hrun (run : List Char) : (split run).flatMap capitalize = [] ↔ run = [] := by
    rw [List.flatMap_eq_nil_iff]
    simp only [capitalize_eq_nil_iff]
    rw [← List.flatten_eq_nil_iff, hsplit]
  rw [camelBy, List.flatMap_eq_nil_iff]
  simp only [hrun]
  rw [← List.flatten_eq_nil_iff, Text.flatten_cut, List.filter_eq_nil_iff]
  simp

theorem nameBy_eq_empty_iff {name : String} :
    nameBy split name = "" ↔ ∀ c ∈ name.toList, c.isAlphanum = false := by
  rw [← camelBy_eq_nil_iff hsplit, nameBy]
  cases camelBy split name.toList with
  | nil => simp
  | cons c rest =>
    have hne : String.ofList (if c.isDigit then '_' :: c :: rest else c :: rest) ≠ "" := by
      split <;> simp
    simp [hne]

theorem isAlphanum_of_mem_words {name word : List Char}
    (hword : word ∈ (Text.cut (! ·.isAlphanum) name).flatMap split) :
    ∀ c ∈ word, c.isAlphanum = true := by
  obtain ⟨run, hrun, hmem⟩ := List.mem_flatMap.mp hword
  intro c hc
  have hc' : c ∈ run := hsplit run ▸ List.mem_flatten_of_mem hmem hc
  simpa using Text.not_cut_of_mem_cut hrun c hc'

theorem isAlphanum_of_mem_camelBy (name : List Char) :
    ∀ c ∈ camelBy split name, c.isAlphanum = true := by
  intro c hc
  rw [camelBy, ← List.flatMap_assoc] at hc
  obtain ⟨word, hword, hmem⟩ := List.mem_flatMap.mp hc
  exact isAlphanum_of_mem_capitalize (isAlphanum_of_mem_words hsplit hword) c hmem

theorem isInitial_of_mem_head?_camelBy (name : List Char) :
    ∀ c ∈ (camelBy split name).head?, isInitial c = true := by
  intro c hc
  rw [camelBy, ← List.flatMap_assoc] at hc
  obtain ⟨word, hword, hmem⟩ := mem_head?_flatMap hc
  exact isInitial_of_mem_head?_capitalize (isAlphanum_of_mem_words hsplit hword) c hmem

/-- A class name starts with an upper-case letter, or with an underscore before a digit. -/
theorem nameBy_cases {name : String} (hne : nameBy split name ≠ "") :
    ∃ c rest, (nameBy split name).toList = c :: rest ∧ (∀ d ∈ rest, Identifier.isPart d = true) ∧
      (c.isUpper = true ∨ c = '_' ∧ ∃ d ∈ rest.head?, d.isDigit = true) := by
  have hchars := isAlphanum_of_mem_camelBy hsplit name.toList
  have hinitial := isInitial_of_mem_head?_camelBy hsplit name.toList
  rw [nameBy] at hne ⊢
  cases hcamel : camelBy split name.toList with
  | nil => simp [hcamel] at hne
  | cons c rest =>
    rw [hcamel] at hchars hinitial
    have hparts : ∀ d ∈ c :: rest, Identifier.isPart d = true := fun d hd ↦
      isPart_of_isAlphanum (hchars d hd)
    by_cases hdigit : c.isDigit = true
    · simp only [if_pos hdigit, String.toList_ofList]
      exact ⟨'_', c :: rest, rfl, hparts, Or.inr ⟨rfl, c, rfl, hdigit⟩⟩
    · simp only [if_neg hdigit, String.toList_ofList]
      have hupper : c.isUpper = true := by
        simpa [isInitial, hdigit] using hinitial c rfl
      exact ⟨c, rest, rfl, fun d hd ↦ hparts d (List.mem_cons_of_mem c hd), Or.inl hupper⟩

/-- A class name with something after it is an identifier unless a character of that may not be part
of one: no reserved word starts as a class name does. -/
theorem isIdentifier_nameBy_append_iff {name suffix : String} (hne : nameBy split name ≠ "") :
    isIdentifier (nameBy split name ++ suffix) = true ↔
      ∀ c ∈ suffix.toList, Identifier.isPart c = true := by
  obtain ⟨c, rest, hname, hrest, hinitial⟩ := nameBy_cases hsplit hne
  have hjoin : nameBy split name ++ suffix = String.ofList (c :: (rest ++ suffix.toList)) := by
    rw [← String.toList_inj, String.toList_append, hname, String.toList_ofList, List.cons_append]
  have hstart : Identifier.isStart c = true := by
    rw [Identifier.isStart, Char.isAlpha]
    rcases hinitial with hupper | ⟨rfl, _⟩
    · rw [hupper, Bool.true_or, Bool.true_or, Bool.true_or]
    · decide
  have hreserved : nameBy split name ++ suffix ∉ reservedWords := by
    rw [hjoin]
    rcases hinitial with hupper | ⟨rfl, d, hd, _⟩
    · exact not_mem_reservedWords_of_isUpper hupper
    · refine not_mem_reservedWords_of_underscore fun h ↦ ?_
      rw [(List.append_eq_nil_iff.mp h).1] at hd
      cases hd
  have hshape : Identifier.isShaped (nameBy split name).toList = true := by
    rw [hname, Identifier.isShaped, hstart, Bool.true_and]
    exact List.all_eq_true.mpr hrest
  constructor
  · intro hidentifier d hd
    exact isPart_of_isIdentifier hidentifier d (by simp [hd])
  · intro hsuffix
    rw [isIdentifier_iff, String.toList_append]
    exact ⟨Identifier.isShaped_append hshape hsuffix, hreserved⟩

/-- A class name is an identifier unless it is empty. -/
theorem isIdentifier_nameBy {name : String} (hne : nameBy split name ≠ "") :
    isIdentifier (nameBy split name) = true := by
  have happend : isIdentifier (nameBy split name ++ "") = true :=
    (isIdentifier_nameBy_append_iff hsplit hne).mpr (by simp)
  rwa [String.append_empty] at happend

end Split

/-! ### Names with words cut by letter case -/

section OfName

variable {name suffix : String}

theorem ofName_eq_empty_iff : ofName name = "" ↔ ∀ c ∈ name.toList, c.isAlphanum = false := by
  rw [ofName_eq_nameBy]
  exact nameBy_eq_empty_iff (flatten_words .boundary [])

theorem isIdentifier_ofName_append_iff (hne : ofName name ≠ "") :
    isIdentifier (ofName name ++ suffix) = true ↔
      ∀ c ∈ suffix.toList, Identifier.isPart c = true := by
  rw [ofName_eq_nameBy] at hne ⊢
  exact isIdentifier_nameBy_append_iff (flatten_words .boundary []) hne

theorem isIdentifier_ofName (hne : ofName name ≠ "") : isIdentifier (ofName name) = true := by
  rw [ofName_eq_nameBy] at hne ⊢
  exact isIdentifier_nameBy (flatten_words .boundary []) hne

end OfName

end Jaxrs.ClassName
