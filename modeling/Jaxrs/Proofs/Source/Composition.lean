import Jaxrs.Proofs.Source.References

/-!
What a source file is put together from. Its texts are names, numbers, punctuation and the
characters of string literals, one after the other, so that a property which these have and which
goes over to texts put together is one of every line (`Compositional.lines`). Left open are the
values of directives, which are source text already, and documentation, whose lines are made in a
way of their own.
-/

set_option autoImplicit false

namespace Jaxrs

/-- A character of a name, of a number or of the punctuation between them. -/
def isSourceChar (c : Char) : Bool :=
  Identifier.isPart c || " .,;@()<>=-\x7b\x7d\"".toList.contains c

/-- A property of texts that goes over to what is put together from them. -/
structure Compositional (P : String → Prop) : Prop where
  append : ∀ {s t : String}, P s → P t → P (s ++ t)
  /-- The empty text is among these. -/
  signs : ∀ {s : String}, s.toList.all isSourceChar = true → P s
  /-- A character as it stands in a string literal. -/
  escape : ∀ c : Char, P (String.ofList (Literal.escape c))

/-- The names and the literals of an annotation have the property. -/
def Annotation.ValuesHave (P : String → Prop) (a : Annotation) : Prop :=
  ∀ v ∈ a.values, P v.name ∧ P v.literal

instance (P : String → Prop) [DecidablePred P] (a : Annotation) : Decidable (a.ValuesHave P) :=
  inferInstanceAs (Decidable (∀ v ∈ a.values, P v.name ∧ P v.literal))

namespace Compositional

variable {P : String → Prop} {table : ImportTable} {edition : Edition}

section Parts

variable (hP : Compositional P)
include hP

theorem joinWith {separator : String} (hseparator : P separator) {parts : List String}
    (h : ∀ s ∈ parts, P s) : P (Text.joinWith separator parts) := by
  induction parts with
  | nil => exact hP.signs rfl
  | cons s rest ih =>
    obtain ⟨hs, hrest⟩ := List.forall_mem_cons.mp h
    by_cases hnil : rest = []
    · rw [hnil]
      exact hs
    · rw [Text.joinWith_cons separator s hnil]
      exact hP.append (hP.append hs hseparator) (ih hrest)

theorem join {parts : List String} (h : ∀ s ∈ parts, P s) : P (String.join parts) := by
  induction parts with
  | nil => exact hP.signs rfl
  | cons s rest ih =>
    obtain ⟨hs, hrest⟩ := List.forall_mem_cons.mp h
    rw [String.join_cons]
    exact hP.append hs (ih hrest)

theorem qualified {s : String} (hs : isQualifiedName s = true) : P s := by
  refine hP.signs (List.all_eq_true.mpr fun c hc ↦ ?_)
  rw [isSourceChar, Bool.or_eq_true]
  rcases isPart_or_eq_dot_of_isQualifiedName hs c hc with hpart | rfl
  · exact Or.inl hpart
  · exact Or.inr (by decide)

theorem identifier {s : String} (hs : isIdentifier s = true) : P s :=
  hP.qualified (isQualifiedName_of_isIdentifier hs)

theorem natRepr (n : Nat) : P n.repr := by
  refine hP.signs (List.all_eq_true.mpr fun c hc ↦ ?_)
  rw [Nat.toList_repr] at hc
  have hdigit := Nat.isDigit_of_mem_toDigits (by decide) (by decide) hc
  rw [isSourceChar, Identifier.isPart, hdigit, Bool.or_true, Bool.true_or]

theorem intRepr (n : Int) : P n.repr := by
  cases n with
  | ofNat n => exact hP.natRepr n
  | negSucc n => exact hP.append (s := "-") (hP.signs (by decide)) (hP.natRepr (n + 1))

theorem literal (s : String) : P (Literal.string s) := by
  have hquote : P "\"" := hP.signs (by decide)
  have hinner : P (String.ofList (s.toList.flatMap Literal.escape)) := by
    induction s.toList with
    | nil => exact hP.signs rfl
    | cons c rest ih =>
      rw [List.flatMap_cons, String.ofList_append]
      exact hP.append (hP.escape c) ih
  have hsplit : Literal.string s =
      "\"" ++ String.ofList (s.toList.flatMap Literal.escape) ++ "\"" := by
    rw [← String.toList_inj]
    simp [Literal.string, Literal.quote]
  rw [hsplit]
  exact hP.append (hP.append hquote hinner) hquote

theorem stringArray (values : List String) : P (Literal.stringArray values) := by
  have hopen : P "\x7b" := hP.signs (by decide)
  have hclose : P "\x7d" := hP.signs (by decide)
  have hvalues : P (Text.joinWith ", " (values.map Literal.string)) := by
    refine hP.joinWith (hP.signs (by decide)) ?_
    rw [List.forall_mem_map]
    exact fun s _ ↦ hP.literal s
  exact hP.append (hP.append hopen hvalues) hclose

theorem valuesHave_single {name literal : String} (h : P literal) :
    Annotation.ValuesHave P (.single name literal) :=
  List.forall_mem_singleton.mpr ⟨hP.signs (s := "value") (by decide), h⟩

theorem valuesHave_binding (b : Binding) :
    ∀ a ∈ Framework.bindingAnnotation edition b, a.ValuesHave P := by
  intro a ha
  cases b with
  | path name | query name | header name | cookie name =>
    obtain rfl := Option.some.inj ha
    exact hP.valuesHave_single (hP.literal name)
  | unbound => cases ha

theorem valuesHave_constraint (k : Constraint) :
    (Framework.constraintAnnotation edition k).ValuesHave P := by
  cases k with
  | notNull => exact List.forall_mem_nil _
  | min n | max n => exact hP.valuesHave_single (hP.intRepr n)
  | decimalMin s | decimalMax s => exact hP.valuesHave_single (hP.literal s)
  | size least greatest =>
    intro v hv
    rcases List.mem_append.mp hv with hleast | hgreatest
    · obtain ⟨n, _, rfl⟩ := Option.map_eq_some_iff.mp (Option.mem_toList.mp hleast)
      exact ⟨hP.signs (s := "min") (by decide), hP.natRepr n⟩
    · obtain ⟨n, _, rfl⟩ := Option.map_eq_some_iff.mp (Option.mem_toList.mp hgreatest)
      exact ⟨hP.signs (s := "max") (by decide), hP.natRepr n⟩
  | pattern s =>
    exact List.forall_mem_singleton.mpr ⟨hP.signs (s := "regexp") (by decide), hP.literal s⟩

theorem valuesHave_ownAnnotations (m : Method) :
    ∀ a ∈ m.ownAnnotations (.jaxrs edition), a.ValuesHave P := by
  refine Method.forall_mem_ownAnnotations ?_ ?_ ?_ ?_ m
  · exact fun path ↦ hP.valuesHave_single (hP.literal path)
  · exact fun _ ↦ List.forall_mem_nil _
  · exact fun types ↦ hP.valuesHave_single (hP.stringArray types)
  · exact fun types ↦ hP.valuesHave_single (hP.stringArray types)

theorem renderValues {a : Annotation} (h : a.ValuesHave P) : P a.renderValues := by
  have hopen : P "(" := hP.signs (by decide)
  have hclose : P ")" := hP.signs (by decide)
  have hequals : P " = " := hP.signs (by decide)
  have hvalue : ∀ v ∈ a.values, P v.render := fun v hv ↦
    hP.append (hP.append (h v hv).1 hequals) (h v hv).2
  unfold Annotation.renderValues
  split
  · exact hP.signs rfl
  · rename_i only hvalues
    have hmem : only ∈ a.values := hvalues ▸ List.mem_singleton_self only
    refine hP.append (hP.append hopen ?_) hclose
    split
    · exact (h only hmem).2
    · exact hvalue only hmem
  · refine hP.append (hP.append hopen (hP.joinWith (hP.signs (by decide)) ?_)) hclose
    rw [List.forall_mem_map]
    exact hvalue

theorem annotationText {a : Annotation} (hname : isQualifiedName (table.spell a.name) = true)
    (hvalues : a.ValuesHave P) : P (table.annotationText a) :=
  hP.append (hP.append (hP.signs (s := "@") (by decide)) (hP.qualified hname))
    (hP.renderValues hvalues)

end Parts

mutual

theorem type (hP : Compositional P) (t : JavaType)
    (h : ∀ c ∈ t.classNames, isQualifiedName (table.spell c) = true) :
    P (t.render table.spell) := by
  match t with
  | .primitive p =>
    rw [JavaType.render]
    exact hP.signs (by cases p <;> decide)
  | .void =>
    rw [JavaType.render]
    exact hP.signs (by decide)
  | .named name [] =>
    rw [JavaType.render]
    exact hP.qualified (h name (by simp [JavaType.classNames]))
  | .named name (a :: args) =>
    have hname := hP.qualified (h name (by simp [JavaType.classNames]))
    have harguments := types hP (a :: args) fun c hc ↦ h c (by simp [JavaType.classNames, hc])
    have hopen : P "<" := hP.signs (by decide)
    have hcomma : P ", " := hP.signs (by decide)
    have hclose : P ">" := hP.signs (by decide)
    rw [JavaType.render]
    exact hP.append (hP.append (hP.append hname hopen) (hP.joinWith hcomma harguments)) hclose

theorem types (hP : Compositional P) (ts : List JavaType)
    (h : ∀ c ∈ JavaType.classNamesOfList ts, isQualifiedName (table.spell c) = true) :
    ∀ s ∈ JavaType.renderList table.spell ts, P s := by
  match ts with
  | [] => simp [JavaType.renderList]
  | t :: rest =>
    have ht := type hP t fun c hc ↦ h c (by simp [JavaType.classNamesOfList, hc])
    have hrest := types hP rest fun c hc ↦ h c (by simp [JavaType.classNamesOfList, hc])
    rw [JavaType.renderList]
    exact List.forall_mem_cons.mpr ⟨ht, hrest⟩

end

section Lines

variable (hP : Compositional P)
include hP

theorem parameter {p : Parameter} (hdirectives : ∀ a ∈ p.annotations, a.ValuesHave P)
    (hname : isIdentifier p.name = true)
    (hspell : ∀ c ∈ p.references (.jaxrs edition), isQualifiedName (table.spell c) = true) :
    P (table.renderParameter (.jaxrs edition) p) := by
  have hvalues : ∀ a ∈ p.annotationsFor (.jaxrs edition), a.ValuesHave P := by
    rw [Parameter.annotationsFor, List.forall_mem_append, List.forall_mem_append,
      List.forall_mem_map]
    refine ⟨⟨fun a ha ↦ ?_, fun k _ ↦ hP.valuesHave_constraint k⟩, hdirectives⟩
    exact hP.valuesHave_binding p.binding a (Option.mem_toList.mp ha)
  refine hP.joinWith (hP.signs (by decide)) ?_
  rw [List.forall_mem_append, List.forall_mem_map]
  refine ⟨fun a ha ↦ ?_, ?_⟩
  · exact hP.annotationText (hspell a.name (List.mem_append_left _ (List.mem_map_of_mem ha)))
      (hvalues a ha)
  · have htype := hP.type p.type fun c hc ↦ hspell c (List.mem_append_right _ hc)
    exact List.forall_mem_cons.mpr ⟨htype, List.forall_mem_singleton.mpr (hP.identifier hname)⟩

theorem signature {m : Method} (hm : m.WellFormed)
    (hdirectives : ∀ p ∈ m.parameters, ∀ a ∈ p.annotations, a.ValuesHave P)
    (hspell : ∀ c ∈ m.references (.jaxrs edition), isQualifiedName (table.spell c) = true) :
    P (table.renderSignature (.jaxrs edition) m) := by
  have hblank : P " " := hP.signs (by decide)
  have hopen : P "(" := hP.signs (by decide)
  have hcomma : P ", " := hP.signs (by decide)
  have hclose : P ");" := hP.signs (by decide)
  have hreturn := hP.type m.returnType fun c hc ↦
    hspell c (List.mem_append_left _ (List.mem_append_right _ hc))
  have hparameters : ∀ s ∈ m.parameters.map (table.renderParameter (.jaxrs edition)), P s := by
    rw [List.forall_mem_map]
    intro p hp
    exact hP.parameter (hdirectives p hp) (hm.parameters p hp).name fun c hc ↦
      hspell c (List.mem_append_right _ (List.mem_flatMap_of_mem hp hc))
  have hstart := hP.append (hP.append (hP.append hreturn hblank) (hP.identifier hm.name)) hopen
  exact hP.append (hP.append hstart (hP.joinWith hcomma hparameters)) hclose

theorem preamble {package : String} (hpackage : package = "" ∨ isQualifiedName package = true)
    (himports : ∀ c ∈ table.imports, isQualifiedName c = true) :
    ∀ l ∈ Interface.preamble package table, P l.text := by
  have hclause {keyword name : String} (hkeyword : P keyword)
      (hname : isQualifiedName name = true) : P (keyword ++ name ++ ";") :=
    hP.append (hP.append hkeyword (hP.qualified hname)) (hP.signs (by decide))
  have hblank : P Line.blank.text := hP.signs rfl
  rw [Interface.preamble, List.forall_mem_append]
  constructor
  · split
    · exact List.forall_mem_nil _
    · rename_i hempty
      have hqualified := hpackage.resolve_left fun h ↦ hempty (by simp [h])
      have hline := hclause (hP.signs (s := "package ") (by decide)) hqualified
      exact List.forall_mem_cons.mpr ⟨hline, List.forall_mem_singleton.mpr hblank⟩
  · split
    · exact List.forall_mem_nil _
    · rw [List.forall_mem_append, List.forall_mem_map]
      refine ⟨fun c hc ↦ ?_, List.forall_mem_singleton.mpr hblank⟩
      exact hclause (hP.signs (s := "import ") (by decide)) (himports c hc)

theorem opening {name : String} (hname : isIdentifier name = true) :
    P ("public interface " ++ name ++ " \x7b") :=
  hP.append (hP.append (hP.signs (s := "public interface ") (by decide)) (hP.identifier hname))
    (hP.signs (by decide))

/-- Documentation is taken to have the property, as it is for each of its lines. -/
theorem methodLines {m : Method} (hm : m.WellFormed)
    (hdoc : ∀ doc ∈ m.doc, ∀ s ∈ Javadoc.comment doc, P s)
    (hdirectives : ∀ p ∈ m.parameters, ∀ a ∈ p.annotations, a.ValuesHave P)
    (hspell : ∀ c ∈ m.references (.jaxrs edition), isQualifiedName (table.spell c) = true) :
    ∀ l ∈ m.lines (.jaxrs edition) table, P l.text := by
  have hcomment : ∀ s ∈ m.doc.elim [] Javadoc.comment, P s := by
    cases hcase : m.doc with
    | none => exact List.forall_mem_nil P
    | some doc => exact hdoc doc hcase
  have hannotations : ∀ a ∈ m.ownAnnotations (.jaxrs edition), P (table.annotationText a) := by
    intro a ha
    have hname : a.name ∈ m.references (.jaxrs edition) :=
      List.mem_append_left _ (List.mem_append_left _ (List.mem_map_of_mem ha))
    exact hP.annotationText (hspell a.name hname) (hP.valuesHave_ownAnnotations m a ha)
  rw [Method.lines, List.forall_mem_cons, List.forall_mem_map, List.forall_mem_append,
    List.forall_mem_append, List.forall_mem_map, List.forall_mem_singleton]
  exact ⟨hP.signs rfl, ⟨hcomment, hannotations⟩, hP.signature hm hdirectives hspell⟩

theorem lines {i : Interface} (hi : i.WellFormed (.jaxrs edition))
    (hinterface : ∀ s ∈ Javadoc.comment (Framework.jaxrs edition).interfaceDoc, P s)
    (hdocs : ∀ m ∈ i.methods, ∀ doc ∈ m.doc, ∀ s ∈ Javadoc.comment doc, P s)
    (hdirectives : ∀ m ∈ i.methods, ∀ p ∈ m.parameters, ∀ a ∈ p.annotations, a.ValuesHave P) :
    ∀ l ∈ i.lines (.jaxrs edition), P l.text := by
  have hspell := hi.isQualifiedName_spelling
  have hpath := hP.annotationText (hspell _ List.mem_cons_self)
    (hP.valuesHave_single (hP.literal i.path))
  have hhead : ∀ s ∈ Javadoc.comment (Framework.jaxrs edition).interfaceDoc ++
      [(i.importTable (.jaxrs edition)).annotationText ((Framework.jaxrs edition).path i.path),
       "public interface " ++ i.name ++ " \x7b"], P s := by
    rw [List.forall_mem_append, List.forall_mem_cons, List.forall_mem_singleton]
    exact ⟨hinterface, hpath, hP.opening hi.name⟩
  have hmethods : ∀ l ∈ i.methods.flatMap
      (Method.lines (.jaxrs edition) (i.importTable (.jaxrs edition))), P l.text := by
    rw [List.forall_mem_flatMap]
    intro m hm
    exact hP.methodLines (hi.methods m hm) (hdocs m hm) (hdirectives m hm) fun c hc ↦
      hspell c (List.mem_cons_of_mem _ (List.mem_flatMap_of_mem hm hc))
  have hend : P (Line.mk 0 "\x7d").text := hP.signs (by decide)
  rw [Interface.lines, List.forall_mem_append, List.forall_mem_append, List.forall_mem_append,
    List.forall_mem_map, List.forall_mem_singleton]
  exact ⟨⟨⟨hP.preamble hi.package hi.isQualifiedName_import, hhead⟩, hmethods⟩, hend⟩

end Lines

end Compositional

end Jaxrs
