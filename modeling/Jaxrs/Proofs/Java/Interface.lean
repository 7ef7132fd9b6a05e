import Jaxrs.Framework.Jaxrs
import Jaxrs.Proofs.Java.Comment
import Jaxrs.Proofs.Source.References

/-!
The tokens of an interface. `interfaceTokens` is the grammar of a source file, read off the
interface alone: clauses, annotations and signatures in their order, with every string of the
interface as a literal token that stands for it. `Interface.tokens?_render` is the main statement:
the text of an interface comes to these tokens, so that no text in a path, a pattern or a
documentation comment breaks out of its place.
-/

set_option autoImplicit false

namespace Jaxrs.Java

/-! ### The grammar of a source file -/

/-- The arguments stand in parentheses, and there are none without an argument. -/
def annotationTokens (name : String) (arguments : List Token) : List Token :=
  .symbol '@' :: (nameTokens name ++
    if arguments = [] then [] else .symbol '(' :: (arguments ++ [.symbol ')']))

/-- An argument of an annotation with its name. -/
def namedTokens (name : String) (value : List Token) : List Token :=
  .word name :: .symbol '=' :: value

def sizeTokens (min max : Option Nat) : List Token :=
  [Token.symbol ','].intercalate
    ((min.map fun n ↦ namedTokens "min" [.number (toString n)]).toList ++
      (max.map fun n ↦ namedTokens "max" [.number (toString n)]).toList)

section Spelled

variable (spell : String → String) (edition : Edition)

mutual

def typeTokens : JavaType → List Token
  | .primitive p => [.word p.keyword]
  | .void => [.word "void"]
  | .named name [] => nameTokens (spell name)
  | .named name (a :: args) =>
    nameTokens (spell name) ++ .symbol '<' ::
      ([.symbol ','].intercalate (typeTokens a :: typeTokensOfList args) ++ [.symbol '>'])

def typeTokensOfList : List JavaType → List (List Token)
  | [] => []
  | t :: rest => typeTokens t :: typeTokensOfList rest

end

def webServiceTokens (name : String) (arguments : List Token) : List Token :=
  annotationTokens (spell (Framework.webService edition name)) arguments

def validationTokens (name : String) (arguments : List Token) : List Token :=
  annotationTokens (spell (Framework.validation edition name)) arguments

def bindingTokens : Binding → List Token
  | .path name => webServiceTokens spell edition "PathParam" [.literal name]
  | .query name => webServiceTokens spell edition "QueryParam" [.literal name]
  | .header name => webServiceTokens spell edition "HeaderParam" [.literal name]
  | .cookie name => webServiceTokens spell edition "CookieParam" [.literal name]
  | .unbound => []

def constraintTokens : Constraint → List Token
  | .notNull => validationTokens spell edition "NotNull" []
  | .min n => validationTokens spell edition "Min" (intTokens n)
  | .max n => validationTokens spell edition "Max" (intTokens n)
  | .decimalMin s => validationTokens spell edition "DecimalMin" [.literal s]
  | .decimalMax s => validationTokens spell edition "DecimalMax" [.literal s]
  | .size min max => validationTokens spell edition "Size" (sizeTokens min max)
  | .pattern s => validationTokens spell edition "Pattern" (namedTokens "regexp" [.literal s])

/-- The binding if there is one, the constraints in their order, the type and the name. -/
def parameterTokens (p : Parameter) : List Token :=
  bindingTokens spell edition p.binding ++ p.constraints.flatMap (constraintTokens spell edition) ++
    typeTokens spell p.type ++ [.word p.name]

/-- The sub-path if there is one, one verb, the media types that there are, and the signature. -/
def methodTokens (m : Method) : List Token :=
  (m.path.elim [] fun path ↦ webServiceTokens spell edition "Path" [.literal path]) ++
    webServiceTokens spell edition m.verb.name [] ++
    (if m.produces = [] then []
     else webServiceTokens spell edition "Produces" (arrayTokens m.produces)) ++
    (if m.consumes = [] then []
     else webServiceTokens spell edition "Consumes" (arrayTokens m.consumes)) ++
    typeTokens spell m.returnType ++ [.word m.name, .symbol '('] ++
    [.symbol ','].intercalate (m.parameters.map (parameterTokens spell edition)) ++
    [.symbol ')', .symbol ';']

/-- A clause of a keyword and a name. -/
def clauseTokens (keyword name : String) : List Token :=
  .word keyword :: (nameTokens name ++ [.symbol ';'])

/-- The package if there is one, the imports, and the interface with its methods in their order. -/
def interfaceTokens (imports : List String) (i : Interface) : List Token :=
  (if i.package = "" then [] else clauseTokens "package" i.package) ++
    imports.flatMap (clauseTokens "import") ++
    webServiceTokens spell edition "Path" [.literal i.path] ++
    [.word "public", .word "interface", .word i.name, .symbol '\x7b'] ++
    i.methods.flatMap (methodTokens spell edition) ++ [.symbol '\x7d']

end Spelled

private theorem intercalate_nil_left {α : Type} (lists : List (List α)) :
    [].intercalate lists = lists.flatten := by
  induction lists with
  | nil => rfl
  | cons l rest ih =>
    cases rest with
    | nil => simp
    | cons l' rest =>
      rw [List.intercalate_cons_cons, ih, List.append_nil]
      rfl

/-! ### Annotations and types -/

section Parts

variable {table : ImportTable} {framework : Framework} {edition : Edition}

theorem readsApart_value {v : AnnotationValue} {ts : List Token}
    (hname : Identifier.isShaped v.name.toList = true) (hvalue : ReadsApart v.literal ts) :
    ReadsApart v.render (namedTokens v.name ts) := by
  have hequals : Reads " = " [.symbol '='] := reads_marks (by decide) (by decide)
  exact ((readsApart_word hname).append hequals (by decide)).append_apart hvalue

/-- An annotation without values. -/
theorem readsApart_marker {name : String} (hname : isQualifiedName (table.spell name) = true) :
    ReadsApart (table.annotationText { name }) (annotationTokens (table.spell name) []) := by
  have hat : Reads "@" [.symbol '@'] := reads_marks (by decide) (by decide)
  simpa [ImportTable.annotationText, Annotation.renderValues, annotationTokens] using
    hat.append_apart (readsApart_qualified hname)

theorem readsApart_annotation {a : Annotation} {inner : String} {ts : List Token}
    (hname : isQualifiedName (table.spell a.name) = true)
    (hvalues : a.renderValues = "(" ++ inner ++ ")") (hinner : ReadsApart inner ts)
    (hts : ts ≠ []) :
    ReadsApart (table.annotationText a) (annotationTokens (table.spell a.name) ts) := by
  have hat : Reads "@" [.symbol '@'] := reads_marks (by decide) (by decide)
  have hopen : Reads "(" [.symbol '('] := reads_marks (by decide) (by decide)
  have hclose : Reads ")" [.symbol ')'] := reads_marks (by decide) (by decide)
  have hbreaks : breaks ("(" ++ inner ++ ")") = true := by
    rw [String.append_assoc]
    exact breaks_append (by decide) _
  have harguments := (hopen.append_apart hinner).append hclose (by decide)
  have hall := (hat.append_apart (readsApart_qualified hname)).append harguments hbreaks
  rw [ImportTable.annotationText, hvalues, annotationTokens, if_neg hts]
  simpa using hall.readsApart

theorem readsApart_single {name literal : String} {ts : List Token}
    (hname : isQualifiedName (table.spell name) = true) (hliteral : ReadsApart literal ts)
    (hts : ts ≠ []) : ReadsApart (table.annotationText (.single name literal))
      (annotationTokens (table.spell name) ts) :=
  readsApart_annotation hname rfl hliteral hts

mutual

theorem readsApart_type (t : JavaType)
    (h : ∀ c ∈ t.classNames, isQualifiedName (table.spell c) = true) :
    ReadsApart (t.render table.spell) (typeTokens table.spell t) := by
  match t with
  | .primitive p =>
    rw [JavaType.render, typeTokens]
    exact readsApart_word (by cases p <;> decide)
  | .void =>
    rw [JavaType.render, typeTokens]
    exact readsApart_word (by decide)
  | .named name [] =>
    rw [JavaType.render, typeTokens]
    exact readsApart_qualified (h name (by simp [JavaType.classNames]))
  | .named name (a :: args) =>
    have hname := readsApart_qualified (h name (by simp [JavaType.classNames]))
    have harguments := forall₂_readsApart_types (a :: args) fun c hc ↦
      h c (by simp [JavaType.classNames, hc])
    have hopen : Reads "<" [.symbol '<'] := reads_marks (by decide) (by decide)
    have hcomma : Reads ", " [.symbol ','] := reads_marks (by decide) (by decide)
    have hclose : Reads ">" [.symbol '>'] := reads_marks (by decide) (by decide)
    have hlist := ReadsApart.joinWith hcomma (by decide) harguments
    have htype := ((hname.append hopen (by decide)).append_apart hlist).append hclose (by decide)
    rw [JavaType.render, typeTokens]
    simpa [JavaType.renderList, typeTokensOfList] using htype.readsApart

theorem forall₂_readsApart_types (ts : List JavaType)
    (h : ∀ c ∈ JavaType.classNamesOfList ts, isQualifiedName (table.spell c) = true) :
    List.Forall₂ ReadsApart (JavaType.renderList table.spell ts)
      (typeTokensOfList table.spell ts) := by
  match ts with
  | [] => exact .nil
  | t :: rest =>
    have ht := readsApart_type t fun c hc ↦ h c (by simp [JavaType.classNamesOfList, hc])
    have hrest := forall₂_readsApart_types rest fun c hc ↦
      h c (by simp [JavaType.classNamesOfList, hc])
    rw [JavaType.renderList, typeTokensOfList]
    exact .cons ht hrest

end

theorem readsApart_size {min max : Option Nat}
    (hname : isQualifiedName (table.spell (Framework.validation edition "Size")) = true) :
    ReadsApart (table.annotationText (Framework.constraintAnnotation edition (.size min max)))
      (constraintTokens table.spell edition (.size min max)) := by
  have hbound (name : String) (h : Identifier.isShaped name.toList = true) (n : Nat) :
      ReadsApart (AnnotationValue.render ⟨name, toString n⟩)
        (namedTokens name [.number (toString n)]) :=
    readsApart_value h (readsApart_nat n)
  have hmin := hbound "min" (by decide)
  have hmax := hbound "max" (by decide)
  cases min with
  | none =>
    cases max with
    | none => exact readsApart_marker hname
    | some n => exact readsApart_annotation hname rfl (hmax n) (by simp [sizeTokens, namedTokens])
  | some k =>
    cases max with
    | none => exact readsApart_annotation hname rfl (hmin k) (by simp [sizeTokens, namedTokens])
    | some n =>
      have hcomma : Reads ", " [.symbol ','] := reads_marks (by decide) (by decide)
      have hboth := ReadsApart.joinWith hcomma (by decide) (.cons (hmin k) (.cons (hmax n) .nil))
      exact readsApart_annotation hname rfl hboth (by simp [sizeTokens, namedTokens])

theorem readsApart_constraint {k : Constraint}
    (hname : isQualifiedName (table.spell (Framework.constraintAnnotation edition k).name) = true) :
    ReadsApart (table.annotationText (Framework.constraintAnnotation edition k))
      (constraintTokens table.spell edition k) := by
  cases k with
  | notNull => exact readsApart_marker hname
  | min n => exact readsApart_single hname (readsApart_int n) (by cases n <;> simp [intTokens])
  | max n => exact readsApart_single hname (readsApart_int n) (by cases n <;> simp [intTokens])
  | decimalMin s => exact readsApart_single hname (reads_literal s).readsApart (by simp)
  | decimalMax s => exact readsApart_single hname (reads_literal s).readsApart (by simp)
  | size min max => exact readsApart_size hname
  | pattern s =>
    have hshaped : Identifier.isShaped "regexp".toList = true := by decide
    have hregexp : ReadsApart (AnnotationValue.render ⟨"regexp", Literal.string s⟩)
        (namedTokens "regexp" [.literal s]) :=
      readsApart_value hshaped (reads_literal s).readsApart
    exact readsApart_annotation hname rfl hregexp (by simp [namedTokens])

/-- An unbound parameter has no annotation and no tokens for it. -/
theorem forall₂_readsApart_binding {b : Binding}
    (hname : ∀ a ∈ Framework.bindingAnnotation edition b,
      isQualifiedName (table.spell a.name) = true) :
    ∃ tokens, List.Forall₂ ReadsApart
        ((Framework.bindingAnnotation edition b).toList.map table.annotationText) tokens ∧
      tokens.flatten = bindingTokens table.spell edition b := by
  have hbound (name value : String)
      (h : isQualifiedName (table.spell (Framework.webService edition name)) = true) :
      ReadsApart (table.annotationText
          (.single (Framework.webService edition name) (Literal.string value)))
        (webServiceTokens table.spell edition name [.literal value]) :=
    readsApart_single h (reads_literal value).readsApart (by simp)
  cases b with
  | path name =>
    have h := hname _ rfl
    exact ⟨_, .cons (hbound "PathParam" name h) .nil, by simp [bindingTokens]⟩
  | query name =>
    have h := hname _ rfl
    exact ⟨_, .cons (hbound "QueryParam" name h) .nil, by simp [bindingTokens]⟩
  | header name =>
    have h := hname _ rfl
    exact ⟨_, .cons (hbound "HeaderParam" name h) .nil, by simp [bindingTokens]⟩
  | cookie name =>
    have h := hname _ rfl
    exact ⟨_, .cons (hbound "CookieParam" name h) .nil, by simp [bindingTokens]⟩
  | unbound => exact ⟨[], .nil, rfl⟩

/-- Nothing but what the binding and the constraints ask for stands before the type. -/
theorem readsApart_parameter {p : Parameter} (hplain : p.annotations = [])
    (hname : isIdentifier p.name = true)
    (hspell : ∀ c ∈ p.references (.jaxrs edition), isQualifiedName (table.spell c) = true) :
    ReadsApart (table.renderParameter (.jaxrs edition) p)
      (parameterTokens table.spell edition p) := by
  have hannotations : p.annotationsFor (.jaxrs edition) =
      (Framework.bindingAnnotation edition p.binding).toList ++
        p.constraints.map (Framework.constraintAnnotation edition) := by
    simp [Parameter.annotationsFor, hplain, Framework.jaxrs]
  have hnames : ∀ a ∈ p.annotationsFor (.jaxrs edition),
      isQualifiedName (table.spell a.name) = true := fun a ha ↦
    hspell a.name (List.mem_append_left _ (List.mem_map_of_mem ha))
  rw [hannotations] at hnames
  obtain ⟨binding, hbinding, hflatten⟩ := forall₂_readsApart_binding fun a ha ↦
    hnames a (List.mem_append_left _ (Option.mem_toList.mpr ha))
  have hconstraints : List.Forall₂ ReadsApart
      ((p.constraints.map (Framework.constraintAnnotation edition)).map table.annotationText)
      (p.constraints.map (constraintTokens table.spell edition)) := by
    rw [List.map_map]
    exact forall₂_readsApart_map fun k hk ↦ readsApart_constraint
      (hnames _ (List.mem_append_right _ (List.mem_map_of_mem hk)))
  have htype := readsApart_type p.type fun c hc ↦ hspell c (List.mem_append_right _ hc)
  have hblank : Reads " " [] := reads_marks (by decide) (by decide)
  have hrest := List.Forall₂.cons htype (.cons (readsApart_identifier hname) .nil)
  have hparts := ReadsApart.joinWith hblank (by decide)
    (List.rel_append (List.rel_append hbinding hconstraints) hrest)
  rw [ImportTable.renderParameter, hannotations, List.map_append]
  rw [intercalate_nil_left, List.flatten_append, List.flatten_append, hflatten] at hparts
  simpa [parameterTokens, List.flatMap, ImportTable.renderType] using hparts

theorem readsApart_signature {m : Method} (hm : m.WellFormed)
    (hplain : ∀ p ∈ m.parameters, p.annotations = [])
    (hspell : ∀ c ∈ m.references (.jaxrs edition), isQualifiedName (table.spell c) = true) :
    Reads (table.renderSignature (.jaxrs edition) m)
      (typeTokens table.spell m.returnType ++ [.word m.name, .symbol '('] ++
        [.symbol ','].intercalate (m.parameters.map (parameterTokens table.spell edition)) ++
        [.symbol ')', .symbol ';']) := by
  have hreturn := readsApart_type m.returnType fun c hc ↦
    hspell c (List.mem_append_left _ (List.mem_append_right _ hc))
  have hparameters := forall₂_readsApart_map fun p hp ↦
    readsApart_parameter (hplain p hp) (hm.parameters p hp).name fun c hc ↦
      hspell c (List.mem_append_right _ (List.mem_flatMap_of_mem hp hc))
  have hblank : Reads " " [] := reads_marks (by decide) (by decide)
  have hopen : Reads "(" [.symbol '('] := reads_marks (by decide) (by decide)
  have hcomma : Reads ", " [.symbol ','] := reads_marks (by decide) (by decide)
  have hclose : Reads ");" [.symbol ')', .symbol ';'] := reads_marks (by decide) (by decide)
  have hname := (hreturn.append hblank (by decide)).append_apart (readsApart_identifier hm.name)
  have hlist := ReadsApart.joinWith hcomma (by decide) hparameters
  have hall := ((hname.append hopen (by decide)).append_apart hlist).append hclose (by decide)
  simpa [ImportTable.renderSignature, ImportTable.renderType] using hall

end Parts

/-! ### Lines -/

/-- The lines, laid out one after another, come to these tokens. -/
def LinesRead (f : Formatter) (lines : List Line) (ts : List Token) : Prop :=
  Reads (String.join (lines.map (Line.layout f))) ts

section Lines

variable {f : Formatter} {lines more : List Line} {ts us : List Token}

theorem LinesRead.nil : LinesRead f [] [] :=
  Reads.empty

theorem LinesRead.append (hlines : LinesRead f lines ts) (hmore : LinesRead f more us) :
    LinesRead f (lines ++ more) (ts ++ us) := by
  have happend := Reads.append hlines hmore
  rwa [← String.join_append, ← List.map_append] at happend

theorem LinesRead.line {level : Nat} {text : String} (h : ReadsApart text ts) :
    LinesRead f [⟨level, text⟩] ts := by
  have hline : Reads ((Line.mk level text).layout f) ts := reads_layout h f level
  simpa [LinesRead] using hline

theorem LinesRead.map {α : Type} {level : Nat} {text : α → String} {tokens : α → List Token}
    {items : List α} (h : ∀ a ∈ items, ReadsApart (text a) (tokens a)) :
    LinesRead f (items.map fun a ↦ ⟨level, text a⟩) (items.flatMap tokens) := by
  rw [LinesRead, List.map_map]
  exact Reads.join fun a ha ↦ reads_layout (h a ha) f level

theorem LinesRead.flatMap {α : Type} {text : α → List Line} {tokens : α → List Token}
    {items : List α} (h : ∀ a ∈ items, LinesRead f (text a) (tokens a)) :
    LinesRead f (items.flatMap text) (items.flatMap tokens) := by
  induction items with
  | nil => exact LinesRead.nil
  | cons a rest ih =>
    have hrest := ih fun b hb ↦ h b (List.mem_cons_of_mem a hb)
    exact (h a List.mem_cons_self).append hrest

theorem LinesRead.blank : LinesRead f [Line.blank] [] :=
  LinesRead.line Reads.empty.readsApart

theorem LinesRead.comment (level : Nat) (text : String) :
    LinesRead f ((Javadoc.comment text).map (Line.mk level)) [] := by
  rw [LinesRead, List.map_map]
  exact reads_comment f level text

end Lines

section Sources

variable {framework : Framework} {edition : Edition} {f : Formatter} {table : ImportTable}

theorem readsApart_clause {keyword start name : String}
    (hkeyword : Identifier.isShaped keyword.toList = true) (hstart : keyword ++ " " = start)
    (hname : isQualifiedName name = true) :
    ReadsApart (start ++ name ++ ";") (clauseTokens keyword name) := by
  have hblank : Reads " " [] := reads_marks (by decide) (by decide)
  have hend : Reads ";" [.symbol ';'] := reads_marks (by decide) (by decide)
  have hword := (readsApart_word hkeyword).append hblank (by decide)
  rw [hstart] at hword
  have hclause := (hword.append_apart (readsApart_qualified hname)).append hend (by decide)
  exact hclause.readsApart

theorem linesRead_preamble {package : String}
    (hpackage : package = "" ∨ isQualifiedName package = true)
    (himports : ∀ c ∈ table.imports, isQualifiedName c = true) :
    LinesRead f (Interface.preamble package table)
      ((if package = "" then [] else clauseTokens "package" package) ++
        table.imports.flatMap (clauseTokens "import")) := by
  rw [Interface.preamble]
  refine LinesRead.append ?_ ?_
  · by_cases hempty : package = ""
    · simpa [hempty] using LinesRead.nil
    · have hname := hpackage.resolve_left hempty
      have hclause : ReadsApart ("package " ++ package ++ ";") (clauseTokens "package" package) :=
        readsApart_clause (by decide) (by decide) hname
      simpa [hempty] using (LinesRead.line hclause).append LinesRead.blank
  · by_cases hempty : table.imports = []
    · simpa [hempty] using LinesRead.nil
    · have hclause : ∀ c ∈ table.imports,
          ReadsApart ("import " ++ c ++ ";") (clauseTokens "import" c) := fun c hc ↦
        readsApart_clause (by decide) (by decide) (himports c hc)
      simpa [hempty] using (LinesRead.map hclause).append LinesRead.blank

theorem readsApart_mediaTypes {name : String} (types : List String)
    (hname : isQualifiedName (table.spell (Framework.webService edition name)) = true) :
    ReadsApart
      (table.annotationText
        (.single (Framework.webService edition name) (Literal.stringArray types)))
      (webServiceTokens table.spell edition name (arrayTokens types)) :=
  readsApart_single hname (reads_stringArray types).readsApart (by simp [arrayTokens])

theorem readsApart_path {path : String}
    (hname : isQualifiedName (table.spell (Framework.webService edition "Path")) = true) :
    ReadsApart (table.annotationText ((Framework.jaxrs edition).path path))
      (webServiceTokens table.spell edition "Path" [.literal path]) :=
  readsApart_single hname (reads_literal path).readsApart (by simp)

theorem linesRead_ownAnnotations {m : Method}
    (hspell : ∀ a ∈ m.ownAnnotations (.jaxrs edition),
      isQualifiedName (table.spell a.name) = true) :
    LinesRead f ((m.ownAnnotations (.jaxrs edition)).map fun a ↦ ⟨1, table.annotationText a⟩)
      ((m.path.elim [] fun path ↦ webServiceTokens table.spell edition "Path" [.literal path]) ++
        webServiceTokens table.spell edition m.verb.name [] ++
        (if m.produces = [] then []
         else webServiceTokens table.spell edition "Produces" (arrayTokens m.produces)) ++
        (if m.consumes = [] then []
         else webServiceTokens table.spell edition "Consumes" (arrayTokens m.consumes))) := by
  rw [Method.ownAnnotations] at hspell ⊢
  simp only [List.forall_mem_append] at hspell
  obtain ⟨⟨⟨hpath, hverb⟩, hproduces⟩, hconsumes⟩ := hspell
  rw [List.map_append, List.map_append, List.map_append]
  refine ((LinesRead.append ?_ ?_).append ?_).append ?_
  · cases hcase : m.path with
    | none => exact LinesRead.nil
    | some path =>
      rw [hcase] at hpath
      have hname := hpath _ (List.mem_singleton_self _)
      exact LinesRead.line (readsApart_path hname)
  · have hname := hverb _ (List.mem_singleton_self _)
    exact LinesRead.line (readsApart_marker hname)
  · by_cases hempty : m.produces = []
    · simpa [hempty] using LinesRead.nil
    · simp only [List.isEmpty_iff, hempty, if_false] at hproduces ⊢
      have hname := hproduces _ (List.mem_singleton_self _)
      exact LinesRead.line (readsApart_mediaTypes m.produces hname)
  · by_cases hempty : m.consumes = []
    · simpa [hempty] using LinesRead.nil
    · simp only [List.isEmpty_iff, hempty, if_false] at hconsumes ⊢
      have hname := hconsumes _ (List.mem_singleton_self _)
      exact LinesRead.line (readsApart_mediaTypes m.consumes hname)

theorem linesRead_method {m : Method} (hm : m.WellFormed)
    (hplain : ∀ p ∈ m.parameters, p.annotations = [])
    (hspell : ∀ c ∈ m.references (.jaxrs edition), isQualifiedName (table.spell c) = true) :
    LinesRead f (m.lines (.jaxrs edition) table) (methodTokens table.spell edition m) := by
  have hdoc : LinesRead f ((m.doc.elim [] Javadoc.comment).map (Line.mk 1)) [] := by
    cases m.doc with
    | none => exact LinesRead.nil
    | some text => exact LinesRead.comment 1 text
  have hannotations := linesRead_ownAnnotations (f := f) (m := m) fun a ha ↦
    hspell a.name (List.mem_append_left _ (List.mem_append_left _ (List.mem_map_of_mem ha)))
  have hsignature : LinesRead f [⟨1, table.renderSignature (.jaxrs edition) m⟩] _ :=
    LinesRead.line (readsApart_signature hm hplain hspell).readsApart
  have hall := LinesRead.blank.append ((hdoc.append hannotations).append hsignature)
  simpa [Method.lines, methodTokens, Function.comp_def] using hall

theorem readsApart_opening {name : String} (hname : isIdentifier name = true) :
    ReadsApart ("public interface " ++ name ++ " \x7b")
      [.word "public", .word "interface", .word name, .symbol '\x7b'] := by
  have hblank : Reads " " [] := reads_marks (by decide) (by decide)
  have hopen : Reads " \x7b" [.symbol '\x7b'] := reads_marks (by decide) (by decide)
  have hpublic : ReadsApart "public" [.word "public"] := readsApart_word (by decide)
  have hinterface : ReadsApart "interface" [.word "interface"] := readsApart_word (by decide)
  have hkeywords := (hpublic.append hblank (by decide)).append
    (hinterface.append hblank (by decide))
  have hstart : "public" ++ " " ++ ("interface" ++ " ") = "public interface " := by decide
  rw [hstart] at hkeywords
  exact ((hkeywords.append_apart (readsApart_identifier hname)).append hopen (by decide)).readsApart

end Sources

end Jaxrs.Java

namespace Jaxrs

namespace Interface

variable {edition : Edition} {f : Formatter} {i : Interface} {text : String}

/-- A source file comes to the tokens of its interface, with every string of the interface read
back from its literal. -/
theorem tokens?_render (hplain : ∀ m ∈ i.methods, ∀ p ∈ m.parameters, p.annotations = [])
    (h : i.render (.jaxrs edition) f = .ok text) :
    Java.tokens? text = some (Java.interfaceTokens (i.importTable (.jaxrs edition)).spell edition
      (i.importTable (.jaxrs edition)).imports i) := by
  obtain ⟨hvalid, rfl⟩ := render_eq_ok_iff.mp h
  have hspell : ∀ c ∈ i.references (.jaxrs edition),
      isQualifiedName ((i.importTable (.jaxrs edition)).spell c) = true := fun c hc ↦
    ImportTable.isQualifiedName_spell (hvalid.references c (mem_references.mp hc))
  have himports : ∀ c ∈ (i.importTable (.jaxrs edition)).imports, isQualifiedName c = true :=
    fun c hc ↦ hvalid.references c (ImportTable.mem_imports hc).1
  have hpreamble := Java.linesRead_preamble (f := f) hvalid.package himports
  have hdoc : Java.LinesRead f
      ((Javadoc.comment (Framework.jaxrs edition).interfaceDoc).map (Line.mk 0)) [] :=
    Java.LinesRead.comment 0 _
  have hmethods := Java.LinesRead.flatMap fun m hm ↦
    Java.linesRead_method (f := f) (hvalid.methods m hm) (hplain m hm) fun c hc ↦
      hspell c (List.mem_cons_of_mem _ (List.mem_flatMap_of_mem hm hc))
  have hpath : Java.LinesRead f [⟨0, (i.importTable (.jaxrs edition)).annotationText
      ((Framework.jaxrs edition).path i.path)⟩] _ :=
    Java.LinesRead.line (Java.readsApart_path (hspell _ List.mem_cons_self))
  have hopening : Java.LinesRead f [⟨0, "public interface " ++ i.name ++ " \x7b"⟩] _ :=
    Java.LinesRead.line (Java.readsApart_opening hvalid.name)
  have hclose : Java.Reads "\x7d" [.symbol '\x7d'] := Java.reads_marks (by decide) (by decide)
  have hend : Java.LinesRead f [⟨0, "\x7d"⟩] _ := Java.LinesRead.line hclose.readsApart
  have hall := (((hpreamble.append ((hdoc.append hpath).append hopening)).append hmethods).append
    hend)
  refine Java.Reads.tokens?_eq ?_
  simpa [Interface.text, lines, Java.LinesRead, Java.interfaceTokens, Function.comp_def] using hall

/-- Texts with quotes, backslashes, line ends and the end mark of a comment in them. -/
def unruly : Interface where
  package := "org.acme"
  name := "Pets"
  path := "/pets\"*/"
  methods := [
    { name := "find"
      doc := some "Ends */ here\n/ and here **/"
      path := none
      verb := .get
      produces := []
      consumes := ["text/\\plain", "a\nb"]
      returnType := .void
      parameters := [
        { name := "id"
          type := .primitive .int
          binding := .query "i\\\"d"
          constraints := [.pattern "^\\w+\"$"]
          annotations := [] }] }]

theorem tokens?_render_unruly :
    (∀ m ∈ unruly.methods, ∀ p ∈ m.parameters, p.annotations = []) ∧
      unruly.render (.jaxrs .javax) {} = .ok (unruly.text (.jaxrs .javax) {}) ∧
      Java.tokens? (unruly.text (.jaxrs .javax) {}) = some (Java.interfaceTokens
        (unruly.importTable (.jaxrs .javax)).spell .javax
        (unruly.importTable (.jaxrs .javax)).imports unruly) := by
  have hplain : ∀ m ∈ unruly.methods, ∀ p ∈ m.parameters, p.annotations = [] := by decide
  have h : unruly.render (.jaxrs .javax) {} = .ok (unruly.text (.jaxrs .javax) {}) :=
    render_eq_ok_iff.mpr ⟨by decide +kernel, rfl⟩
  exact ⟨hplain, h, tokens?_render hplain h⟩

end Interface

end Jaxrs
