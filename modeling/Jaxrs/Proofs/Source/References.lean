import Jaxrs.Framework.Jaxrs
import Jaxrs.Proofs.ImportTable.Order
import Jaxrs.Proofs.Source.Validity

/-!
The classes that a source file names. `Interface.template` is the file with a gap at every place
where a class is named, and the gaps, in the order of the text, are those that the types and
annotations of the interface ask for (`references_template`). `render_eq_fill_template` is the main
statement: the file is the template with every gap filled by a spelling that stands for the class of
the gap.
-/

set_option autoImplicit false

namespace Jaxrs

/-- A stretch of source text, or a gap for the spelling of a class. -/
inductive Piece where
  | verbatim (s : String)
  | reference (name : String)
  deriving DecidableEq, Repr

namespace Piece

def fill (spell : String → String) : Piece → String
  | verbatim s => s
  | reference name => spell name

def fillAll (spell : String → String) (pieces : List Piece) : String :=
  String.join (pieces.map (fill spell))

def reference? : Piece → Option String
  | verbatim _ => none
  | reference name => some name

def references (pieces : List Piece) : List String :=
  pieces.filterMap reference?

/-- Lists of pieces with a separator between them. -/
def joinWith (separator : String) : List (List Piece) → List Piece
  | [] => []
  | [pieces] => pieces
  | pieces :: rest => pieces ++ verbatim separator :: joinWith separator rest

variable {spell : String → String}

@[simp] theorem fillAll_nil : fillAll spell [] = "" := rfl

@[simp] theorem fillAll_cons (piece : Piece) (pieces : List Piece) :
    fillAll spell (piece :: pieces) = piece.fill spell ++ fillAll spell pieces := by
  simp [fillAll]

@[simp] theorem fillAll_append (first second : List Piece) :
    fillAll spell (first ++ second) = fillAll spell first ++ fillAll spell second := by
  simp [fillAll]

theorem fillAll_joinWith (separator : String) (lists : List (List Piece)) :
    fillAll spell (joinWith separator lists) =
      Text.joinWith separator (lists.map (fillAll spell)) := by
  induction lists with
  | nil => rfl
  | cons pieces rest ih =>
    cases rest with
    | nil => rfl
    | cons next rest =>
      rw [joinWith, fillAll_append, fillAll_cons, ih, ← String.append_assoc]
      · rfl
      · simp

@[simp] theorem references_nil : references [] = [] := rfl

@[simp] theorem references_verbatim (s : String) (pieces : List Piece) :
    references (verbatim s :: pieces) = references pieces := rfl

@[simp] theorem references_reference (name : String) (pieces : List Piece) :
    references (reference name :: pieces) = name :: references pieces := rfl

@[simp] theorem references_append (first second : List Piece) :
    references (first ++ second) = references first ++ references second :=
  List.filterMap_append

theorem references_joinWith (separator : String) (lists : List (List Piece)) :
    references (joinWith separator lists) = lists.flatMap references := by
  induction lists with
  | nil => rfl
  | cons pieces rest ih =>
    cases rest with
    | nil => simp [joinWith]
    | cons next rest =>
      rw [joinWith, references_append, references_verbatim, List.flatMap_cons, ← ih]
      simp

end Piece

namespace JavaType

mutual

/-- A type as source text with gaps for its classes. -/
def pieces : JavaType → List Piece
  | primitive p => [.verbatim p.keyword]
  | void => [.verbatim "void"]
  | named name [] => [.reference name]
  | named name (a :: args) =>
    .reference name :: .verbatim "<" ::
      (Piece.joinWith ", " (pieces a :: piecesOfList args) ++ [.verbatim ">"])

def piecesOfList : List JavaType → List (List Piece)
  | [] => []
  | t :: rest => pieces t :: piecesOfList rest

end

mutual

theorem fillAll_pieces (spell : String → String) (t : JavaType) :
    Piece.fillAll spell t.pieces = t.render spell := by
  match t with
  | primitive p => simp [pieces, render, Piece.fill]
  | void => simp [pieces, render, Piece.fill]
  | named name [] => simp [pieces, render, Piece.fill]
  | named name (a :: args) =>
    rw [pieces, render, Piece.fillAll_cons, Piece.fillAll_cons, Piece.fillAll_append,
      Piece.fillAll_joinWith, List.map_cons, fillAll_pieces spell a, map_fillAll_pieces spell args]
    simp [Piece.fill, String.append_assoc]

theorem map_fillAll_pieces (spell : String → String) (ts : List JavaType) :
    (piecesOfList ts).map (Piece.fillAll spell) = renderList spell ts := by
  match ts with
  | [] => rfl
  | t :: rest =>
    rw [piecesOfList, List.map_cons, renderList, fillAll_pieces spell t,
      map_fillAll_pieces spell rest]

end

mutual

theorem references_pieces (t : JavaType) : Piece.references t.pieces = t.classNames := by
  match t with
  | primitive p => rfl
  | void => rfl
  | named name [] => rfl
  | named name (a :: args) =>
    have hjoin : Piece.references (Piece.joinWith ", " (pieces a :: piecesOfList args)) =
        classNamesOfList (a :: args) := by
      rw [Piece.references_joinWith, List.flatMap_cons, references_pieces a,
        flatMap_references_pieces args, classNamesOfList]
    rw [classNames, ← hjoin, pieces]
    simp

theorem flatMap_references_pieces (ts : List JavaType) :
    (piecesOfList ts).flatMap Piece.references = classNamesOfList ts := by
  match ts with
  | [] => rfl
  | t :: rest =>
    rw [piecesOfList, List.flatMap_cons, classNamesOfList, references_pieces t,
      flatMap_references_pieces rest]

end

end JavaType

/-- A line of a source file with gaps for its classes. -/
structure Template where
  level : Nat
  pieces : List Piece

namespace Template

def line (spell : String → String) (t : Template) : Line :=
  ⟨t.level, Piece.fillAll spell t.pieces⟩

/-- A line that names no class. -/
def ofLine (l : Line) : Template :=
  ⟨l.level, [.verbatim l.text]⟩

def references (t : Template) : List String :=
  Piece.references t.pieces

@[simp] theorem references_mk (level : Nat) (pieces : List Piece) :
    (⟨level, pieces⟩ : Template).references = Piece.references pieces := rfl

@[simp] theorem references_ofLine (l : Line) : (ofLine l).references = [] := rfl

@[simp] theorem line_ofLine (spell : String → String) (l : Line) : (ofLine l).line spell = l := by
  simp [line, ofLine, Piece.fill]

end Template

def Annotation.pieces (a : Annotation) : List Piece :=
  [.verbatim "@", .reference a.name, .verbatim a.renderValues]

namespace Parameter

variable (framework : Framework) (p : Parameter)

def pieces : List Piece :=
  Piece.joinWith " "
    ((p.annotationsFor framework).map Annotation.pieces ++ [p.type.pieces, [.verbatim p.name]])

/-- The classes that the source names for a parameter, in the order of the source. -/
def references : List String :=
  (p.annotationsFor framework).map Annotation.name ++ p.type.classNames

end Parameter

namespace Method

variable (framework : Framework) (m : Method)

def signaturePieces : List Piece :=
  m.returnType.pieces ++ .verbatim " " :: .verbatim m.name :: .verbatim "(" ::
    (Piece.joinWith ", " (m.parameters.map (Parameter.pieces framework)) ++ [.verbatim ");"])

def template : List Template :=
  .ofLine .blank ::
    ((m.doc.elim [] Javadoc.comment).map fun s ↦ .ofLine ⟨1, s⟩) ++
      (m.ownAnnotations framework).map (fun a ↦ ⟨1, a.pieces⟩) ++
      [⟨1, m.signaturePieces framework⟩]

def references : List String :=
  (m.ownAnnotations framework).map Annotation.name ++ m.returnType.classNames ++
    m.parameters.flatMap (Parameter.references framework)

end Method

namespace Interface

variable (framework : Framework) (i : Interface)

/-- The source file with a gap at every place where a class is named. -/
def template : List Template :=
  (preamble i.package (i.importTable framework)).map .ofLine ++
    (Javadoc.comment framework.interfaceDoc).map (fun s ↦ .ofLine ⟨0, s⟩) ++
    [⟨0, (framework.path i.path).pieces⟩,
     .ofLine ⟨0, "public interface " ++ i.name ++ " \x7b"⟩] ++
    i.methods.flatMap (Method.template framework) ++
    [.ofLine ⟨0, "\x7d"⟩]

/-- The classes that the types and annotations name, in the order of the source. -/
def references : List String :=
  (framework.path i.path).name :: i.methods.flatMap (Method.references framework)

end Interface

section Fill

variable {framework : Framework} (table : ImportTable)

theorem Annotation.fillAll_pieces (a : Annotation) :
    Piece.fillAll table.spell a.pieces = table.annotationText a := by
  simp [pieces, Piece.fill, ImportTable.annotationText, String.append_assoc]

theorem Parameter.fillAll_pieces (p : Parameter) :
    Piece.fillAll table.spell (p.pieces framework) = table.renderParameter framework p := by
  have hannotations : ((p.annotationsFor framework).map Annotation.pieces).map
      (Piece.fillAll table.spell) = (p.annotationsFor framework).map table.annotationText := by
    rw [List.map_map]
    exact List.map_congr_left fun a _ ↦ a.fillAll_pieces table
  rw [pieces, Piece.fillAll_joinWith, ImportTable.renderParameter, List.map_append, hannotations]
  simp [JavaType.fillAll_pieces, Piece.fill, ImportTable.renderType]

theorem Method.fillAll_signaturePieces (m : Method) :
    Piece.fillAll table.spell (m.signaturePieces framework) =
      table.renderSignature framework m := by
  have hparameters : (m.parameters.map (Parameter.pieces framework)).map
      (Piece.fillAll table.spell) = m.parameters.map (table.renderParameter framework) := by
    rw [List.map_map]
    exact List.map_congr_left fun p _ ↦ p.fillAll_pieces table
  simp [signaturePieces, Piece.fillAll_joinWith, hparameters, JavaType.fillAll_pieces, Piece.fill,
    ImportTable.renderSignature, ImportTable.renderType, String.append_assoc]

theorem Method.map_line_template (m : Method) :
    (m.template framework).map (Template.line table.spell) = m.lines framework table := by
  have hdoc (s : String) : (Template.ofLine ⟨1, s⟩).line table.spell = Line.mk 1 s :=
    Template.line_ofLine table.spell ⟨1, s⟩
  have hannotation (a : Annotation) :
      (⟨1, a.pieces⟩ : Template).line table.spell = ⟨1, table.annotationText a⟩ :=
    congrArg (Line.mk 1) (a.fillAll_pieces table)
  have hsignature : (⟨1, m.signaturePieces framework⟩ : Template).line table.spell =
      ⟨1, table.renderSignature framework m⟩ :=
    congrArg (Line.mk 1) (m.fillAll_signaturePieces table)
  simp [template, lines, hdoc, hannotation, hsignature, Function.comp_def]

end Fill

private theorem flatMap_nil_fun {α β : Type} (l : List α) :
    (l.flatMap fun _ ↦ ([] : List β)) = [] :=
  List.flatMap_eq_nil_iff.mpr fun _ _ ↦ rfl

private theorem mem_flatMap_append {α β : Type} {l : List α} {f g : α → List β} {b : β} :
    b ∈ l.flatMap (fun a ↦ f a ++ g a) ↔ b ∈ l.flatMap f ∨ b ∈ l.flatMap g := by
  simp only [List.mem_flatMap, List.mem_append, and_or_left, exists_or]

section Gaps

variable {framework : Framework}

theorem flatMap_references_annotations (annotations : List Annotation) :
    annotations.flatMap (fun a ↦ Piece.references a.pieces) = annotations.map Annotation.name :=
  List.map_eq_flatMap.symm

theorem Parameter.references_pieces (p : Parameter) :
    Piece.references (p.pieces framework) = p.references framework := by
  simp [pieces, references, Piece.references_joinWith, List.flatMap_map,
    flatMap_references_annotations, JavaType.references_pieces]

theorem Method.references_signaturePieces (m : Method) :
    Piece.references (m.signaturePieces framework) =
      m.returnType.classNames ++ m.parameters.flatMap (Parameter.references framework) := by
  simp [signaturePieces, Piece.references_joinWith, List.flatMap_map,
    Parameter.references_pieces, JavaType.references_pieces]

theorem Method.references_template (m : Method) :
    (m.template framework).flatMap Template.references = m.references framework := by
  simp [template, references, flatMap_references_annotations, references_signaturePieces,
    List.flatMap_map, flatMap_nil_fun]

end Gaps

namespace Interface

variable {framework : Framework} {i : Interface}

theorem map_line_template :
    (i.template framework).map (Template.line (i.importTable framework).spell) =
      i.lines framework := by
  have hline (l : Line) : (Template.ofLine l).line (i.importTable framework).spell = l :=
    Template.line_ofLine _ l
  have hpath : (⟨0, (framework.path i.path).pieces⟩ : Template).line
      (i.importTable framework).spell =
        ⟨0, (i.importTable framework).annotationText (framework.path i.path)⟩ :=
    congrArg (Line.mk 0) ((framework.path i.path).fillAll_pieces _)
  simp [template, lines, hline, hpath, Function.comp_def, List.map_flatMap,
    Method.map_line_template]

theorem references_template :
    (i.template framework).flatMap Template.references = i.references framework := by
  have hmethods : (i.methods.flatMap (Method.template framework)).flatMap Template.references =
      i.methods.flatMap (Method.references framework) := by
    rw [List.flatMap_assoc]
    exact List.flatMap_congr fun m _ ↦ m.references_template
  simp [template, references, hmethods, List.flatMap_map, flatMap_nil_fun, Annotation.pieces]

/-- What the source names is what is collected for the import table. -/
theorem mem_references {c : String} :
    c ∈ i.references framework ↔ c ∈ i.classNames framework := by
  have hmethod (m : Method) : c ∈ m.references framework ↔
      c ∈ m.classNames ∨ c ∈ (m.annotations framework).map Annotation.name := by
    have hparameters : c ∈ m.parameters.flatMap (Parameter.references framework) ↔
        c ∈ m.parameters.flatMap (fun p ↦ (p.annotationsFor framework).map Annotation.name) ∨
          c ∈ m.parameters.flatMap (·.type.classNames) :=
      mem_flatMap_append
    simp only [Method.references, Method.classNames, Method.annotations, List.map_append,
      List.map_flatMap, List.mem_append, hparameters]
    tauto
  rw [references, classNames, annotations, List.mem_cons, List.mem_append, List.map_cons,
    List.mem_cons, List.map_flatMap, List.mem_flatMap, List.mem_flatMap, List.mem_flatMap]
  simp only [hmethod, and_or_left, exists_or]
  exact or_left_comm

theorem WellFormed.isQualifiedName_spelling (h : i.WellFormed framework) :
    ∀ c ∈ i.references framework,
      isQualifiedName ((i.importTable framework).spell c) = true :=
  fun c hc ↦ ImportTable.isQualifiedName_spell (h.references c (mem_references.mp hc))

theorem WellFormed.isQualifiedName_import (h : i.WellFormed framework) :
    ∀ c ∈ (i.importTable framework).imports, isQualifiedName c = true :=
  fun c hc ↦ h.references c (ImportTable.mem_imports hc).1

/-- The scope in which a reader of the source file looks names up. -/
def scope (framework : Framework) (i : Interface) : NameScope :=
  ⟨i.package, i.name, (i.importTable framework).imports, i.references framework⟩

/-- The gaps of a file's template are the classes that its interface refers to. Each of them is in
the import table, and its spelling in the file stands for it and for no other class. -/
theorem render_eq_fill_template {f : Formatter} {text : String}
    (h : i.render framework f = .ok text) :
    text = String.join ((i.template framework).map fun t ↦
        (t.line (i.importTable framework).spell).layout f) ∧
      (i.template framework).flatMap Template.references = i.references framework ∧
      ∀ c ∈ i.references framework, ∃ spelling,
        (i.importTable framework).spell? c = some spelling ∧
          (i.scope framework).denotes? spelling = some ((i.scope framework).classOf c) := by
  obtain ⟨hvalid, rfl⟩ := render_eq_ok_iff.mp h
  refine ⟨?_, references_template, ?_⟩
  · rw [Interface.text, ← map_line_template, List.map_map]
    rfl
  · intro c hc
    exact NameScope.denotes?_spell? hvalid.references (fun _ ↦ mem_references)
      (mem_references.mp hc)

/-- Two classes called `String`, one of them in the package of the source, and a class with the
name of the interface. -/
def shadowing : Interface where
  package := "org.acme"
  name := "Pets"
  path := "/pets"
  methods := [
    { name := "find"
      doc := none
      path := none
      verb := .get
      produces := []
      consumes := []
      returnType := .named "org.acme.String" [.plain "java.lang.String", .plain "java.lang.Pets"]
      parameters := [] }]

theorem render_shadowing :
    shadowing.render (.jaxrs .jakarta) {} = .ok (shadowing.text (.jaxrs .jakarta) {}) ∧
      (shadowing.text (.jaxrs .jakarta) {} =
          String.join ((shadowing.template (.jaxrs .jakarta)).map fun t ↦
            (t.line (shadowing.importTable (.jaxrs .jakarta)).spell).layout {}) ∧
        (shadowing.template (.jaxrs .jakarta)).flatMap Template.references =
          shadowing.references (.jaxrs .jakarta) ∧
        ∀ c ∈ shadowing.references (.jaxrs .jakarta), ∃ spelling,
          (shadowing.importTable (.jaxrs .jakarta)).spell? c = some spelling ∧
            (shadowing.scope (.jaxrs .jakarta)).denotes? spelling =
              some ((shadowing.scope (.jaxrs .jakarta)).classOf c)) ∧
      ["org.acme.String", "java.lang.String", "java.lang.Pets"].map
          (shadowing.importTable (.jaxrs .jakarta)).spell? =
        [some "String", some "java.lang.String", some "java.lang.Pets"] := by
  have h : shadowing.render (.jaxrs .jakarta) {} = .ok (shadowing.text (.jaxrs .jakarta) {}) :=
    render_eq_ok_iff.mpr ⟨by decide +kernel, rfl⟩
  refine ⟨h, render_eq_fill_template h, ?_⟩
  simp only [importTable, ImportTable.ofClasses, sortedNames_eq_insertionSort,
    ImportTable.mergeSort_importOrder]
  decide +kernel

end Interface

end Jaxrs
