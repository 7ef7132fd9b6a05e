import Jaxrs.FilePath
import Jaxrs.Failure
import Jaxrs.Text.Segment

/-!
Settings of a generation run, with their defaults and the checks that they have to pass.
-/

set_option autoImplicit false

namespace Jaxrs

/-- The type around the result of an asynchronous method. -/
inductive AsyncWrapper where
  | completionStage
  | mutiny
  deriving DecidableEq, Repr

namespace AsyncWrapper

def className : AsyncWrapper → String
  | completionStage => "java.util.concurrent.CompletionStage"
  | mutiny => "io.smallrye.mutiny.Uni"

end AsyncWrapper

/-- The edition of the platform, which names the root package of its annotations. -/
inductive Edition where
  | jakarta
  | javax
  deriving DecidableEq, Repr

namespace Edition

def root : Edition → String
  | jakarta => "jakarta"
  | javax => "javax"

end Edition

inductive LineEnding where
  | lf
  | crLf
  deriving DecidableEq, Repr

namespace LineEnding

def text : LineEnding → String
  | lf => "\n"
  | crLf => "\r\n"

end LineEnding

/-- White space of generated sources. -/
structure Formatter where
  indentSize : Nat := 4
  useTabs : Bool := false
  lineEnding : LineEnding := .lf
  deriving DecidableEq, Repr

namespace Formatter

/-- One level of indentation. -/
def indent (f : Formatter) : String :=
  if f.useTabs then "\t" else String.ofList (List.replicate f.indentSize ' ')

def newline (f : Formatter) : String :=
  f.lineEnding.text

end Formatter

structure Naming where
  /-- Comes after the name of every interface. -/
  interfaceSuffix : String := ""
  deriving DecidableEq, Repr

structure Settings where
  reactive : Bool := false
  wrapper : AsyncWrapper := .completionStage
  returnResponse : Bool := false
  basePackage : String := "org.openapi.quarkus"
  beanPackage? : Option String := none
  /-- The model to generate from. -/
  spec : Option FilePath := none
  inputBaseDir : Option FilePath := none
  edition : Edition := .jakarta
  naming : Naming := {}
  formatter : Formatter := {}
  deriving DecidableEq, Repr

/-- Segments of ASCII letters, digits and underscores, none starting with a digit. -/
def isPackageName (s : String) : Bool :=
  (Text.segments '.' s).all fun segment =>
    match segment.toList with
    | [] => false
    | c :: rest => (c.isAlpha || c == '_') && rest.all fun d => d.isAlphanum || d == '_'

namespace Settings

/-- Switches between the two wrappers. -/
def withMutiny (s : Settings) (on : Bool) : Settings :=
  { s with wrapper := if on then .mutiny else .completionStage }

/-- The package of generated beans. -/
def beanPackage (s : Settings) : String :=
  s.beanPackage?.getD (s.basePackage ++ ".beans")

/-- A relative model path starts at the input base directory. -/
def resolvedSpec (s : Settings) : Option FilePath :=
  match s.spec, s.inputBaseDir with
  | some spec, some base => some (if spec.isRelative then base.join spec else spec)
  | some spec, none => some spec
  | none, _ => none

def validate (s : Settings) : Except ConfigError Unit := do
  if !isPackageName s.basePackage then
    throw (.basePackage s.basePackage)
  if let some beans := s.beanPackage? then
    if !isPackageName beans then
      throw (.beanPackage beans)
  if s.formatter.indentSize == 0 && !s.formatter.useTabs then
    throw .noIndent

end Settings

end Jaxrs
