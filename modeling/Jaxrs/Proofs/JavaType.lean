import Jaxrs.Proofs.ImportTable.Order
import Jaxrs.Source
import Mathlib.Data.Set.Function

/-!
Types can be read back from their texts. A type starts with a word, which is a keyword or the
spelling of a class, and ends with its arguments. A word goes on as far as its characters do
(`word_append_inj`), and what follows a type is never taken for a part of it, so that a text with
more text after it determines the type and the rest (`JavaType.determined`). All that is asked of
the spelling is that it tells classes apart and gives qualified names (`Legible`), and that holds of
the spelling of an import table (`ImportTable.legible_spell`).
-/

set_option autoImplicit false

namespace Jaxrs

/-- A stretch of characters of one kind ends before the first character of another. -/
theorem word_append_inj {p : Char → Bool} {w w' rest rest' : List Char}
    (hw : ∀ c ∈ w, p c = true) (hw' : ∀ c ∈ w', p c = true)
    (hrest : ∀ c ∈ rest.head?, p c = false) (hrest' : ∀ c ∈ rest'.head?, p c = false)
    (h : w ++ rest = w' ++ rest') : w = w' ∧ rest = rest' := by
  induction w generalizing w' with
  | nil =>
    cases w' with
    | nil => exact ⟨rfl, h⟩
    | cons d w' =>
      have hd := hrest d (by rw [List.nil_append] at h; rw [h]; rfl)
      rw [hw' d List.mem_cons_self] at hd
      cases hd
  | cons c w ih =>
    cases w' with
    | nil =>
      have hc := hrest' c (by rw [List.nil_append] at h; rw [← h]; rfl)
      rw [hw c List.mem_cons_self] at hc
      cases hc
    | cons d w' =>
      obtain ⟨rfl, htail⟩ := List.cons.inj h
      obtain ⟨rfl, rfl⟩ :=
        ih (List.forall_mem_cons.mp hw).2 (List.forall_mem_cons.mp hw').2 htail
      exact ⟨rfl, rfl⟩

theorem Primitive.keyword_injective : Function.Injective Primitive.keyword := by
  intro p q h
  cases p <;> cases q <;> first | rfl | exact absurd h (by decide)

/-- Classes are told apart by how they are spelled, and no spelling is a keyword. -/
structure Legible (spell : String → String) (classes : Set String) : Prop where
  injOn : Set.InjOn spell classes
  qualified : ∀ c ∈ classes, isQualifiedName (spell c) = true

namespace JavaType

/-- The first word of a type. -/
def word (spell : String → String) : JavaType → String
  | primitive p => p.keyword
  | void => "void"
  | named name _ => spell name

def arguments : JavaType → List JavaType
  | named _ args => args
  | _ => []

/-- Arguments that come after another. -/
def followingText (spell : String → String) : List JavaType → String
  | [] => ""
  | t :: rest => ", " ++ t.render spell ++ followingText spell rest

def argumentsText (spell : String → String) : List JavaType → String
  | [] => ""
  | t :: rest => "<" ++ t.render spell ++ followingText spell rest ++ ">"

section Render

variable {spell : String → String}

theorem joinWith_renderList (t : JavaType) (args : List JavaType) :
    Text.joinWith ", " (t.render spell :: renderList spell args) =
      t.render spell ++ followingText spell args := by
  induction args generalizing t with
  | nil => simp [renderList, followingText, Text.joinWith]
  | cons a args ih =>
    rw [renderList, Text.joinWith_cons _ _ (List.cons_ne_nil _ _), ih, followingText,
      String.append_assoc, String.append_assoc]

theorem render_eq_word_append (t : JavaType) :
    t.render spell = t.word spell ++ argumentsText spell t.arguments := by
  match t with
  | primitive p => simp [render, word, arguments, argumentsText]
  | void => simp [render, word, arguments, argumentsText]
  | named name [] => simp [render, word, arguments, argumentsText]
  | named name (a :: args) =>
    rw [render, word, arguments, argumentsText, joinWith_renderList]
    simp only [String.append_assoc]

end Render

/-- The characters of the words in a type. -/
def isWordPart (c : Char) : Bool :=
  Identifier.isPart c || c == '.'

/-- What may follow a type: nothing that its last word or its arguments could go on with. -/
def Ends (rest : List Char) : Prop :=
  ∀ c ∈ rest.head?, isWordPart c = false ∧ c ≠ '<'

theorem ends_cons {c : Char} (hc : isWordPart c = false) (hopen : c ≠ '<') (rest : List Char) :
    Ends (c :: rest) := by
  intro d hd
  obtain rfl : c = d := by simpa using hd
  exact ⟨hc, hopen⟩

section Readable

variable {spell : String → String} {classes : Set String}

theorem isWordPart_of_mem_word (hspell : Legible spell classes) {t : JavaType}
    (ht : ∀ c ∈ t.classNames, c ∈ classes) : ∀ c ∈ (t.word spell).toList, isWordPart c = true := by
  match t with
  | primitive p =>
    rw [word]
    exact List.all_eq_true.mp (by cases p <;> decide)
  | void =>
    rw [word]
    exact List.all_eq_true.mp (by decide)
  | named name _ =>
    intro c hc
    have hname := hspell.qualified name (ht name (by simp [classNames]))
    rcases isPart_or_eq_dot_of_isQualifiedName hname c hc with hpart | rfl
    · rw [isWordPart, hpart, Bool.true_or]
    · decide

/-- A type is made of its first word and its arguments. -/
theorem eq_of_word_eq (hspell : Legible spell classes) {t t' : JavaType}
    (ht : ∀ c ∈ t.classNames, c ∈ classes) (ht' : ∀ c ∈ t'.classNames, c ∈ classes)
    (hword : t.word spell = t'.word spell) (harguments : t.arguments = t'.arguments) : t = t' := by
  have hclass {name : String} {args : List JavaType}
      (h : ∀ c ∈ (named name args).classNames, c ∈ classes) : name ∈ classes :=
    h name (by simp [classNames])
  have hne {name keyword : String} (hname : name ∈ classes)
      (hkeyword : '.' ∉ keyword.toList ∧ keyword ∈ reservedWords) : spell name ≠ keyword := by
    rintro rfl
    exact not_isQualifiedName_of_mem_reservedWords hkeyword.1 hkeyword.2
      (hspell.qualified name hname)
  have hprimitive (p : Primitive) : '.' ∉ p.keyword.toList ∧ p.keyword ∈ reservedWords := by
    cases p <;> decide
  have hvoid : '.' ∉ "void".toList ∧ "void" ∈ reservedWords := by decide
  have hkeyword (p : Primitive) : p.keyword ≠ "void" := by
    cases p <;> decide
  match t, t' with
  | primitive p, primitive q => rw [Primitive.keyword_injective hword]
  | primitive p, void => exact absurd hword (hkeyword p)
  | primitive p, named name _ => exact absurd hword.symm (hne (hclass ht') (hprimitive p))
  | void, primitive p => exact absurd hword.symm (hkeyword p)
  | void, void => rfl
  | void, named name _ => exact absurd hword.symm (hne (hclass ht') hvoid)
  | named name _, primitive p => exact absurd hword (hne (hclass ht) (hprimitive p))
  | named name _, void => exact absurd hword (hne (hclass ht) hvoid)
  | named name args, named name' args' =>
    obtain rfl : name = name' := hspell.injOn (hclass ht) (hclass ht') hword
    obtain rfl : args = args' := harguments
    rfl

/-- The text of the type, with anything after it that is no part of a type, is the text of no other
type. -/
def Determined (spell : String → String) (classes : Set String) (t : JavaType) : Prop :=
  ∀ (t' : JavaType) (rest rest' : List Char), (∀ c ∈ t'.classNames, c ∈ classes) →
    Ends rest → Ends rest' →
      (t.render spell).toList ++ rest = (t'.render spell).toList ++ rest' → t = t' ∧ rest = rest'

theorem ends_followingText (args : List JavaType) (rest : List Char) :
    Ends ((followingText spell args).toList ++ '>' :: rest) := by
  cases args with
  | nil => exact ends_cons (by decide) (by decide) rest
  | cons a args =>
    have hcons : (followingText spell (a :: args)).toList ++ '>' :: rest =
        ',' :: ' ' :: ((a.render spell).toList ++
          ((followingText spell args).toList ++ '>' :: rest)) := by
      simp [followingText]
    rw [hcons]
    exact ends_cons (by decide) (by decide) _

theorem followingText_append_inj {args args' : List JavaType} {rest rest' : List Char}
    (hargs : ∀ a ∈ args, Determined spell classes a)
    (hargs' : ∀ c ∈ classNamesOfList args', c ∈ classes)
    (h : (followingText spell args).toList ++ '>' :: rest =
      (followingText spell args').toList ++ '>' :: rest') :
    args = args' ∧ rest = rest' := by
  induction args generalizing args' with
  | nil =>
    cases args' with
    | nil => exact ⟨rfl, List.cons.inj h |>.2⟩
    | cons a' args' => simp [followingText] at h
  | cons a args ih =>
    cases args' with
    | nil => simp [followingText] at h
    | cons a' args' =>
      obtain ⟨ha, hargs⟩ := List.forall_mem_cons.mp hargs
      rw [classNamesOfList, List.forall_mem_append] at hargs'
      simp only [followingText, String.toList_append, List.append_assoc,
        List.append_cancel_left_eq] at h
      obtain ⟨rfl, htail⟩ := ha a' _ _ hargs'.1 (ends_followingText args rest)
        (ends_followingText args' rest') h
      obtain ⟨rfl, rfl⟩ := ih hargs hargs'.2 htail
      exact ⟨rfl, rfl⟩

theorem argumentsText_append_inj {args args' : List JavaType} {rest rest' : List Char}
    (hargs : ∀ a ∈ args, Determined spell classes a)
    (hargs' : ∀ c ∈ classNamesOfList args', c ∈ classes) (hrest : Ends rest) (hrest' : Ends rest')
    (h : (argumentsText spell args).toList ++ rest = (argumentsText spell args').toList ++ rest') :
    args = args' ∧ rest = rest' := by
  have hcons (a : JavaType) (args : List JavaType) (rest : List Char) :
      (argumentsText spell (a :: args)).toList ++ rest =
        '<' :: ((a.render spell).toList ++ ((followingText spell args).toList ++ '>' :: rest)) := by
    simp [argumentsText]
  cases args with
  | nil =>
    cases args' with
    | nil => exact ⟨rfl, h⟩
    | cons a' args' =>
      rw [hcons] at h
      exact absurd rfl (hrest '<' (congrArg List.head? h)).2
  | cons a args =>
    rw [hcons] at h
    cases args' with
    | nil => exact absurd rfl (hrest' _ (congrArg List.head? h).symm).2
    | cons a' args' =>
      obtain ⟨ha, hargs⟩ := List.forall_mem_cons.mp hargs
      rw [classNamesOfList, List.forall_mem_append] at hargs'
      rw [hcons] at h
      obtain ⟨rfl, htail⟩ := ha a' _ _ hargs'.1 (ends_followingText args rest)
        (ends_followingText args' rest') (List.cons.inj h).2
      obtain ⟨rfl, rfl⟩ := followingText_append_inj hargs hargs'.2 htail
      exact ⟨rfl, rfl⟩

theorem not_isWordPart_of_ends (args : List JavaType) {rest : List Char} (hrest : Ends rest) :
    ∀ c ∈ ((argumentsText spell args).toList ++ rest).head?, isWordPart c = false := by
  cases args with
  | nil => exact fun c hc ↦ (hrest c hc).1
  | cons a args =>
    intro c hc
    obtain rfl : '<' = c := by simpa [argumentsText] using hc
    decide

theorem determined_of_arguments (hspell : Legible spell classes) {t : JavaType}
    (ht : ∀ c ∈ t.classNames, c ∈ classes)
    (harguments : ∀ a ∈ t.arguments, Determined spell classes a) : Determined spell classes t := by
  intro t' rest rest' ht' hrest hrest' h
  rw [render_eq_word_append, render_eq_word_append t', String.toList_append, String.toList_append,
    List.append_assoc, List.append_assoc] at h
  obtain ⟨hword, htail⟩ := word_append_inj (isWordPart_of_mem_word hspell ht)
    (isWordPart_of_mem_word hspell ht') (not_isWordPart_of_ends _ hrest)
    (not_isWordPart_of_ends _ hrest') h
  have hclasses : ∀ c ∈ classNamesOfList t'.arguments, c ∈ classes := by
    cases t' with
    | primitive p => simp [arguments, classNamesOfList]
    | void => simp [arguments, classNamesOfList]
    | named name args => exact fun c hc ↦ ht' c (List.mem_cons_of_mem name hc)
  obtain ⟨heq, hrests⟩ := argumentsText_append_inj harguments hclasses hrest hrest' htail
  exact ⟨eq_of_word_eq hspell ht ht' (String.toList_inj.mp hword) heq, hrests⟩

mutual

theorem determined (hspell : Legible spell classes) (t : JavaType)
    (ht : ∀ c ∈ t.classNames, c ∈ classes) : Determined spell classes t := by
  match t with
  | primitive p => exact determined_of_arguments hspell ht (by simp [arguments])
  | void => exact determined_of_arguments hspell ht (by simp [arguments])
  | named name args =>
    refine determined_of_arguments hspell ht (determined_list hspell args ?_)
    exact fun c hc ↦ ht c (List.mem_cons_of_mem name hc)

theorem determined_list (hspell : Legible spell classes) (ts : List JavaType)
    (hts : ∀ c ∈ classNamesOfList ts, c ∈ classes) : ∀ t ∈ ts, Determined spell classes t := by
  match ts with
  | [] => simp
  | t :: rest =>
    rw [classNamesOfList, List.forall_mem_append] at hts
    exact List.forall_mem_cons.mpr
      ⟨determined hspell t hts.1, determined_list hspell rest hts.2⟩

end

/-- A type is the only one with its text. -/
theorem injOn_render (hspell : Legible spell classes) :
    Set.InjOn (render spell) {t | ∀ c ∈ t.classNames, c ∈ classes} := by
  intro t ht t' ht' h
  have hnil : Ends [] := by simp [Ends]
  exact (determined hspell t ht t' [] [] ht' hnil hnil (by rw [h])).1

end Readable

end JavaType

namespace ImportTable

variable {package interfaceName : String} {classes : List String}

/-- An import takes no simple name that a class has without it. -/
theorem simpleName_ne_of_mem_imports {c d : String}
    (hc : c ∈ (ofClasses package interfaceName classes).implicit)
    (hd : d ∈ (ofClasses package interfaceName classes).imports) : simpleName c ≠ simpleName d := by
  obtain ⟨hmem, _, horigin⟩ := mem_implicit hc
  refine (mem_imports hd).2.2.2 c hmem ?_
  rcases horigin with horigin | horigin <;> simp [horigin]

/-- Two classes do not both go by one simple name, and a full name is no simple name. -/
theorem injOn_spell (hclasses : ∀ c ∈ classes, (splitQualified c).1 ≠ "") :
    Set.InjOn (ofClasses package interfaceName classes).spell {c | c ∈ classes} := by
  have hfull {c d : String} (hc : c ∈ classes) : c ≠ simpleName d := by
    intro heq
    exact not_mem_simpleName d (heq ▸ mem_of_owner_ne_empty (hclasses c hc))
  intro c hc d hd h
  rw [spell, spell, spell?_of_mem hc, spell?_of_mem hd, Option.getD_some, Option.getD_some] at h
  by_cases hshort : c ∈ (ofClasses package interfaceName classes).implicit ∨
      c ∈ (ofClasses package interfaceName classes).imports
  · by_cases hshort' : d ∈ (ofClasses package interfaceName classes).implicit ∨
        d ∈ (ofClasses package interfaceName classes).imports
    · rw [if_pos hshort, if_pos hshort'] at h
      rcases hshort with himplicit | himport
      · rcases hshort' with himplicit' | himport'
        · exact List.inj_on_of_nodup_map nodup_shortened himplicit himplicit' h
        · exact absurd h (simpleName_ne_of_mem_imports himplicit himport')
      · rcases hshort' with himplicit' | himport'
        · exact absurd h.symm (simpleName_ne_of_mem_imports himplicit' himport)
        · exact List.inj_on_of_nodup_map nodup_shortened himport himport' h
    · rw [if_pos hshort, if_neg hshort'] at h
      exact absurd h.symm (hfull hd)
  · by_cases hshort' : d ∈ (ofClasses package interfaceName classes).implicit ∨
        d ∈ (ofClasses package interfaceName classes).imports
    · rw [if_neg hshort, if_pos hshort'] at h
      exact absurd h (hfull hc)
    · rw [if_neg hshort, if_neg hshort'] at h
      exact h

theorem legible_spell
    (hclasses : ∀ c ∈ classes, isQualifiedName c = true ∧ (splitQualified c).1 ≠ "") :
    Legible (ofClasses package interfaceName classes).spell {c | c ∈ classes} where
  injOn := injOn_spell fun c hc ↦ (hclasses c hc).2
  qualified c hc := isQualifiedName_spell (hclasses c hc).1

/-- The second part is about types that are written with the full names of their classes. -/
theorem injOn_renderType (package interfaceName : String) (classes : List String)
    (hclasses : ∀ c ∈ classes, isQualifiedName c = true ∧ (splitQualified c).1 ≠ "") :
    Set.InjOn (ofClasses package interfaceName classes).renderType
        {t | ∀ c ∈ t.classNames, c ∈ classes} ∧
      Set.InjOn JavaType.text {t | ∀ c ∈ t.classNames, isQualifiedName c = true} := by
  have hid : Legible id {c | isQualifiedName c = true} := ⟨Set.injOn_id _, fun _ hc ↦ hc⟩
  exact ⟨JavaType.injOn_render (legible_spell hclasses), JavaType.injOn_render hid⟩

/-- A list of dates and a list of the other dates. -/
theorem injOn_renderType_dates :
    (∀ c ∈ ["java.util.List", "java.util.Date", "java.sql.Date"],
      isQualifiedName c = true ∧ (splitQualified c).1 ≠ "") ∧
    (ofClasses "org.acme" "Pets" ["java.util.List", "java.util.Date", "java.sql.Date"]).renderType
        (.named "java.util.List" [.plain "java.util.Date"]) ≠
      (ofClasses "org.acme" "Pets" ["java.util.List", "java.util.Date", "java.sql.Date"]).renderType
        (.named "java.util.List" [.plain "java.sql.Date"]) := by
  have hclasses : ∀ c ∈ ["java.util.List", "java.util.Date", "java.sql.Date"],
      isQualifiedName c = true ∧ (splitQualified c).1 ≠ "" := by
    decide +kernel
  refine ⟨hclasses, fun heq ↦ ?_⟩
  have hsame := (injOn_renderType "org.acme" "Pets" _ hclasses).1
    (by simp [JavaType.classNames, JavaType.classNamesOfList])
    (by simp [JavaType.classNames, JavaType.classNamesOfList]) heq
  simp at hsame

/-- Arguments of arguments; the dates share a simple name, which one of them gets. -/
example : (ofClasses "org.acme" "Pets"
      ["java.util.List", "java.util.Map", "java.util.Date", "java.sql.Date"]).renderType
    (.named "java.util.Map"
      [.plain "java.sql.Date", .named "java.util.List" [.plain "java.util.Date"]]) =
      "Map<Date, List<java.util.Date>>" := by
  simp only [ofClasses, sortedNames_eq_insertionSort, mergeSort_importOrder]
  decide +kernel

end ImportTable

end Jaxrs
