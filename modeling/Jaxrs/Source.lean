import Jaxrs.Framework.Basic
import Jaxrs.Identifier
import Jaxrs.ImportTable
import Jaxrs.Javadoc
import Jaxrs.Settings.Basic

/-!
Source files of interfaces. An interface is checked, its classes are collected into an import
table, and it is written as lines with a nesting level; the formatter only says how levels and
line ends look.
-/

set_option autoImplicit false

namespace Jaxrs

structure Line where
  level : Nat
  text : String
  deriving DecidableEq, Repr

namespace Line

def blank : Line := ⟨0, ""⟩

def layout (f : Formatter) (line : Line) : String :=
  String.join (List.replicate line.level f.indent) ++ line.text ++ f.newline

end Line

namespace Parameter

def check (owner : String) (p : Parameter) : Except RenderError Unit := do
  if !isIdentifier p.name then
    throw (.parameter p.name owner)
  if p.type.isVoid then
    throw (.voidParameter p.name owner)

def annotationsFor (framework : Framework) (p : Parameter) : List Annotation :=
  (framework.binding p.binding).toList ++ p.constraints.map framework.constraint ++ p.annotations

end Parameter

namespace Method

def check (owner : String) (m : Method) : Except RenderError Unit := do
  if !isIdentifier m.name then
    throw (.method m.name owner)
  m.parameters.forM (Parameter.check m.name)

/-- The annotations of the method itself. -/
def ownAnnotations (framework : Framework) (m : Method) : List Annotation :=
  (m.path.map framework.path).toList ++ [framework.verb m.verb] ++
    (if m.produces.isEmpty then [] else [framework.produces m.produces]) ++
    (if m.consumes.isEmpty then [] else [framework.consumes m.consumes])

/-- Those of the method, then those of its parameters in order. -/
def annotations (framework : Framework) (m : Method) : List Annotation :=
  m.ownAnnotations framework ++ m.parameters.flatMap (Parameter.annotationsFor framework)

def classNames (m : Method) : List String :=
  m.returnType.classNames ++ m.parameters.flatMap (·.type.classNames)

end Method

def AnnotationValue.render (v : AnnotationValue) : String :=
  v.name ++ " = " ++ v.literal

/-- The values in parentheses; one called `value` is written without its name if it is alone. -/
def Annotation.renderValues (a : Annotation) : String :=
  match a.values with
  | [] => ""
  | [only] => "(" ++ (if only.name == "value" then only.literal else only.render) ++ ")"
  | values => "(" ++ Text.joinWith ", " (values.map AnnotationValue.render) ++ ")"

namespace ImportTable

def renderType (table : ImportTable) (t : JavaType) : String :=
  t.render table.spell

def annotationText (table : ImportTable) (a : Annotation) : String :=
  "@" ++ table.spell a.name ++ a.renderValues

def renderParameter (table : ImportTable) (framework : Framework) (p : Parameter) : String :=
  Text.joinWith " "
    ((p.annotationsFor framework).map table.annotationText ++ [table.renderType p.type, p.name])

def renderSignature (table : ImportTable) (framework : Framework) (m : Method) : String :=
  table.renderType m.returnType ++ " " ++ m.name ++ "(" ++
    Text.joinWith ", " (m.parameters.map (table.renderParameter framework)) ++ ");"

end ImportTable

namespace Method

/-- A blank line, the documentation, the annotations and the signature. -/
def lines (framework : Framework) (table : ImportTable) (m : Method) : List Line :=
  Line.blank ::
    ((m.doc.elim [] Javadoc.comment) ++
      (m.ownAnnotations framework).map table.annotationText ++
      [table.renderSignature framework m]).map (Line.mk 1)

end Method

namespace Interface

def check (i : Interface) : Except RenderError Unit := do
  if !i.package.isEmpty && !isQualifiedName i.package then
    throw (.package i.package)
  if !isIdentifier i.name then
    throw (.interface i.name)
  i.methods.forM (Method.check i.name)

/-- Every annotation of the source, in the order of the source. -/
def annotations (framework : Framework) (i : Interface) : List Annotation :=
  framework.path i.path :: i.methods.flatMap (Method.annotations framework)

/-- Every class that the source refers to. -/
def classNames (framework : Framework) (i : Interface) : List String :=
  i.methods.flatMap Method.classNames ++ (i.annotations framework).map Annotation.name

/-- The first annotation without a proper name, or else the least such class. -/
def checkReferences (framework : Framework) (i : Interface) : Except RenderError Unit := do
  if let some a := (i.annotations framework).find? (!isQualifiedName ·.name) then
    throw (.annotationName a.name)
  if let some c := (sortedNames (i.classNames framework)).find? (!isQualifiedName ·) then
    throw (.type c)

def importTable (framework : Framework) (i : Interface) : ImportTable :=
  .ofClasses i.package i.name (i.classNames framework)

/-- The package clause and the imports, each part followed by a blank line. -/
def preamble (package : String) (table : ImportTable) : List Line :=
  (if package.isEmpty then [] else [⟨0, "package " ++ package ++ ";"⟩, .blank]) ++
    (if table.imports.isEmpty then []
     else table.imports.map (fun c => ⟨0, "import " ++ c ++ ";"⟩) ++ [.blank])

def lines (framework : Framework) (i : Interface) : List Line :=
  let table := i.importTable framework
  preamble i.package table ++
    (Javadoc.comment framework.interfaceDoc ++
      [table.annotationText (framework.path i.path),
       "public interface " ++ i.name ++ " \x7b"]).map (Line.mk 0) ++
    i.methods.flatMap (Method.lines framework table) ++
    [⟨0, "\x7d"⟩]

/-- The lines of a source file, if the interface is well-formed. -/
def source (framework : Framework) (i : Interface) : Except RenderError (List Line) := do
  i.check
  i.checkReferences framework
  return i.lines framework

def render (framework : Framework) (f : Formatter) (i : Interface) : Except RenderError String := do
  return String.join ((← i.source framework).map (Line.layout f))

end Interface

end Jaxrs
