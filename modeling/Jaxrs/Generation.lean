import Jaxrs.Source
import Jaxrs.Synthesis

/-!
Generation of the source files of an API: one for each resource, in order, or the failure of the
first resource that has one.
-/

set_option autoImplicit false

namespace Jaxrs

structure SourceFile where
  qualifiedName : String
  /-- Relative to the output directory. -/
  path : FilePath
  content : String
  deriving DecidableEq, Repr

namespace Interface

def qualifiedName (i : Interface) : String :=
  if i.package.isEmpty then i.name else i.package ++ "." ++ i.name

/-- A directory for each segment of the package, and a file of the interface's name. -/
def sourcePath (i : Interface) : FilePath :=
  ⟨Text.joinWith "/"
    ((Text.segments '.' i.package).filter (!·.isEmpty) ++ [i.name ++ ".java"])⟩

def sourceFile (framework : Framework) (f : Formatter) (i : Interface) :
    Except Failure SourceFile := do
  let content ← (i.render framework f).mapError Failure.render
  return { qualifiedName := i.qualifiedName, path := i.sourcePath, content }

end Interface

namespace Settings

def generateResource (s : Settings) (framework : Framework) (render : String → String)
    (api : Api) (r : Resource) : Except Failure SourceFile := do
  let i ← r.interface s s.beanPackage render api.contextRoot
  i.sourceFile framework s.formatter

/-- The source files of an API. Nothing is generated with settings that are not valid. -/
def generate (s : Settings) (framework : Framework) (render : String → String) (api : Api) :
    Except Failure (List SourceFile) := do
  s.validate.mapError Failure.config
  api.resources.mapM (s.generateResource framework render api)

end Settings

end Jaxrs
