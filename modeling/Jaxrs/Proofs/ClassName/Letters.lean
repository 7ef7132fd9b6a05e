import Jaxrs.Proofs.ClassName

/-!
The letters of class names. A class name has the letters and digits of its name in their order, in
another case (`map_toLower_camelBy`), and any other character in a name only says that two parts of
it are named apart (`camelBy_append_cons`). Neither depends on where a run of letters and digits is
cut into words: `classNaming_classNameBy` puts the laws together for every conversion to upper camel
case, and `classNaming_ofName` for the one that cuts by letter case.
-/

set_option autoImplicit false

namespace Jaxrs.ClassName

/-! ### Letters kept in order -/

theorem map_toLower_capitalize (word : List Char) :
    (capitalize word).map Char.toLower = word.map Char.toLower := by
  cases word with
  | nil => rfl
  | cons c rest => simp [capitalize]

section Split

variable {split : List Char → List (List Char)} (hsplit : ∀ run, (split run).flatten = run)

include hsplit in
theorem map_toLower_camelBy (name : List Char) :
    (camelBy split name).map Char.toLower = (name.filter Char.isAlphanum).map Char.toLower := by
  have hrun (run : List Char) :
      ((split run).flatMap capitalize).map Char.toLower = run.map Char.toLower := by
    calc
      ((split run).flatMap capitalize).map Char.toLower =
          (split run).flatMap fun word ↦ word.map Char.toLower := by
        simp only [List.map_flatMap, map_toLower_capitalize]
      _ = (split run).flatten.map Char.toLower := by
        rw [List.map_flatten, List.flatMap_def]
      _ = run.map Char.toLower := by
        rw [hsplit]
  have hletters : (Text.cut (! ·.isAlphanum) name).flatten = name.filter Char.isAlphanum := by
    simp [Text.flatten_cut]
  calc
    (camelBy split name).map Char.toLower =
        (Text.cut (! ·.isAlphanum) name).flatMap fun run ↦ run.map Char.toLower := by
      simp only [camelBy, List.map_flatMap, hrun]
    _ = (Text.cut (! ·.isAlphanum) name).flatten.map Char.toLower := by
      rw [List.map_flatten, List.flatMap_def]
    _ = (name.filter Char.isAlphanum).map Char.toLower := by
      rw [hletters]

theorem camelBy_append_cons {c : Char} (hc : c.isAlphanum = false) (a b : List Char) :
    camelBy split (a ++ c :: b) = camelBy split a ++ camelBy split b := by
  rw [camelBy, Text.cut_append_cons (by simp [hc]), List.flatMap_append]
  rfl

/-- A class name without the underscore that stands before a digit. -/
def bare (className : String) : String :=
  match className.toList with
  | '_' :: rest => String.ofList rest
  | _ => className

include hsplit in
theorem bare_nameBy (name : String) :
    bare (nameBy split name) = String.ofList (camelBy split name.toList) := by
  have hchars := isAlphanum_of_mem_camelBy hsplit name.toList
  rw [nameBy]
  cases hcamel : camelBy split name.toList with
  | nil => rfl
  | cons c rest =>
    by_cases hdigit : c.isDigit = true
    · simp [bare, hdigit]
    · have hunderscore : c ≠ '_' := by
        rintro rfl
        have hletter := hchars '_' (by simp [hcamel])
        exact absurd hletter (by decide)
      simp [bare, hdigit, hunderscore]

end Split

/-! ### Conversions to upper camel case -/

/-- What is asked of a conversion to upper camel case, for texts of ASCII letters, digits and
blanks: each run of letters and digits is cut into words, and the words are put together with their
first letters in upper case and their other letters in lower case. -/
def IsUpperCamel (convert : String → String) : Prop :=
  ∃ split : List Char → List (List Char), (∀ run, (split run).flatten = run) ∧
    ∀ text : String, (∀ c ∈ text.toList, c.isAlphanum = true ∨ c = ' ') →
      convert text = String.ofList (camelBy split text.toList)

/-- The name with a blank in place of everything that is no ASCII letter or digit. -/
def blanked (name : String) : String :=
  name.map fun c ↦ if c.isAlphanum then c else ' '

/-- The class name of a name for a conversion to upper camel case. -/
def classNameBy (convert : String → String) (name : String) : String :=
  if ((convert (blanked name)).toList.head?.any Char.isDigit) then "_" ++ convert (blanked name)
  else convert (blanked name)

theorem cut_map_blank (name : List Char) :
    Text.cut (! ·.isAlphanum) (name.map fun c ↦ if c.isAlphanum then c else ' ') =
      Text.cut (! ·.isAlphanum) name := by
  induction name with
  | nil => rfl
  | cons c rest ih =>
    by_cases hc : c.isAlphanum = true
    · rw [List.map_cons, if_pos hc, Text.cut, Text.cut, ih]
    · rw [List.map_cons, if_neg hc, Text.cut_cons_of_cut (by decide),
        Text.cut_cons_of_cut (by simpa using hc), ih]

theorem camelBy_blanked (split : List Char → List (List Char)) (name : String) :
    camelBy split (blanked name).toList = camelBy split name.toList := by
  rw [camelBy, blanked, String.toList_map, cut_map_blank]
  rfl

/-- Blanks separate as well as what they stand for. -/
theorem classNameBy_eq_nameBy {convert : String → String} {split : List Char → List (List Char)}
    (hconvert : ∀ text : String, (∀ c ∈ text.toList, c.isAlphanum = true ∨ c = ' ') →
      convert text = String.ofList (camelBy split text.toList)) :
    classNameBy convert = nameBy split := by
  funext name
  have hblanked : ∀ c ∈ (blanked name).toList, c.isAlphanum = true ∨ c = ' ' := by
    intro c hc
    rw [blanked, String.toList_map] at hc
    obtain ⟨d, _, rfl⟩ := List.mem_map.mp hc
    by_cases hd : d.isAlphanum = true
    · exact Or.inl (by rw [if_pos hd, hd])
    · exact Or.inr (if_neg hd)
  rw [classNameBy, hconvert _ hblanked, camelBy_blanked, nameBy]
  cases camelBy split name.toList with
  | nil => rfl
  | cons c rest =>
    by_cases hdigit : c.isDigit = true
    · rw [← String.toList_inj]
      simp [hdigit]
    · simp [hdigit]

/-! ### Laws of class names -/

/-- What holds of a function that gives names their class names. -/
structure ClassNaming (className : String → String) : Prop where
  empty_iff : ∀ name, className name = "" ↔ ∀ c ∈ name.toList, c.isAlphanum = false
  identifier : ∀ name, className name ≠ "" → isIdentifier (className name) = true
  initial : ∀ name, className name ≠ "" → ∃ c rest, (className name).toList = c :: rest ∧
    (c.isUpper = true ∨ c = '_' ∧ ∃ d ∈ rest.head?, d.isDigit = true)
  /-- Nothing is lost and nothing changes its place. -/
  letters : ∀ name, (bare (className name)).toList.map Char.toLower =
    (name.toList.filter Char.isAlphanum).map Char.toLower
  /-- What is no letter or digit only separates. -/
  append : ∀ (a b : String) (c : Char), c.isAlphanum = false →
    bare (className (a ++ String.singleton c ++ b)) = bare (className a) ++ bare (className b)

theorem classNaming_nameBy {split : List Char → List (List Char)}
    (hsplit : ∀ run, (split run).flatten = run) : ClassNaming (nameBy split) where
  empty_iff _ := nameBy_eq_empty_iff hsplit
  identifier _ := isIdentifier_nameBy hsplit
  initial name hne := by
    obtain ⟨c, rest, hname, _, hinitial⟩ := nameBy_cases hsplit hne
    exact ⟨c, rest, hname, hinitial⟩
  letters name := by
    rw [bare_nameBy hsplit, String.toList_ofList, map_toLower_camelBy hsplit]
  append a b c hc := by
    have hname : (a ++ String.singleton c ++ b).toList = a.toList ++ c :: b.toList := by simp
    rw [bare_nameBy hsplit, bare_nameBy hsplit, bare_nameBy hsplit, hname,
      camelBy_append_cons hc, String.ofList_append]

theorem classNaming_classNameBy {convert : String → String} (hconvert : IsUpperCamel convert) :
    ClassNaming (classNameBy convert) := by
  obtain ⟨split, hsplit, htext⟩ := hconvert
  rw [classNameBy_eq_nameBy htext]
  exact classNaming_nameBy hsplit

/-- Upper camel case with words cut by letter case. -/
def upperCamel (text : String) : String :=
  String.ofList (camel text.toList)

theorem isUpperCamel_upperCamel : IsUpperCamel upperCamel :=
  ⟨words .boundary [], flatten_words .boundary [], fun _ _ ↦ rfl⟩

theorem ofName_eq_classNameBy : ofName = classNameBy upperCamel := by
  rw [ofName_eq_nameBy]
  exact (classNameBy_eq_nameBy fun _ _ ↦ rfl).symm

/-- The laws hold for words cut by letter case, and for words cut in any other way. -/
theorem classNaming_ofName : ClassNaming ofName ∧ ofName = classNameBy upperCamel ∧
    ∀ convert : String → String, IsUpperCamel convert → ClassNaming (classNameBy convert) :=
  ⟨classNaming_nameBy (flatten_words .boundary []), ofName_eq_classNameBy,
    fun _ ↦ classNaming_classNameBy⟩

/-- Digits, several upper-case letters in a row and a letter beyond ASCII. -/
theorem classNaming_ofName_grouped : ofName "2faHTTPServer×gross" = "_2faHttpServerGross" ∧
    bare (ofName ("2faHTTPServer" ++ String.singleton '×' ++ "gross")) =
      bare (ofName "2faHTTPServer") ++ bare (ofName "gross") := by
  have hlaws := classNaming_ofName.2.2 upperCamel isUpperCamel_upperCamel
  rw [← ofName_eq_classNameBy] at hlaws
  exact ⟨by decide +kernel, hlaws.append "2faHTTPServer" "gross" '×' (by decide)⟩

end Jaxrs.ClassName
