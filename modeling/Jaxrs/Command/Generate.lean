import Jaxrs.Discovery
import Jaxrs.Framework.Jaxrs
import Jaxrs.Generation
import Jaxrs.Markdown

/-!
The command that generates interfaces. Settings are resolved, models found and all sources rendered
before the first file is written; writing stops at the first failure.
-/

set_option autoImplicit false

namespace Jaxrs

structure GenerateOptions where
  config : Option FilePath := none
  spec : Option FilePath := none
  inputBaseDir : Option FilePath := none
  basePackage : Option String := none
  reactive : Option Bool := none
  mutiny : Option Bool := none
  returnResponse : Option Bool := none
  outputDir : FilePath
  deriving DecidableEq, Repr

namespace GenerateOptions

/-- What is given as an option takes the place of what the settings say. -/
def override (o : GenerateOptions) (s : Settings) : Settings :=
  let s := { s with
    spec := o.spec.or s.spec
    inputBaseDir := o.inputBaseDir.or s.inputBaseDir
    basePackage := o.basePackage.getD s.basePackage
    reactive := o.reactive.getD s.reactive
    returnResponse := o.returnResponse.getD s.returnResponse }
  o.mutiny.elim s s.withMutiny

end GenerateOptions

variable {m : Type → Type} [Monad m] [FileAccess m] {α : Type}

/-- A failure of a part is one of the command. -/
def asCore (x : ExceptT Failure m α) : ExceptT CommandFailure m α :=
  ExceptT.adapt CommandFailure.core x

def orCore (x : Except Failure α) : ExceptT CommandFailure m α :=
  ExceptT.mk (pure (x.mapError CommandFailure.core))

/-- A file operation that fails is a failure of its program. -/
def orFileError (x : m (Except FileError α)) : ExceptT Failure m α :=
  ExceptT.mk (return (← x).mapError Failure.io)

/-- Makes the directory that a file is to lie in. -/
def makeParent (path : FilePath) : ExceptT Failure m Unit :=
  match path.parent? with
  | some parent => orFileError (FileAccess.createDirectories parent)
  | none => pure ()

def writeSource (outputDir : FilePath) (s : SourceFile) : ExceptT Failure m FilePath := do
  makeParent (outputDir.join s.path)
  orFileError (FileAccess.writeText (outputDir.join s.path) s.content)
  return outputDir.join s.path

/-- Stops at the first source that cannot be written; the files before it stay. -/
def writeSources (outputDir : FilePath) (files : List SourceFile) :
    ExceptT Failure m (List FilePath) :=
  files.mapM (writeSource outputDir)

namespace GenerateOptions

def resolveSettings (o : GenerateOptions) : ExceptT CommandFailure m Settings := do
  let initial ← match o.config with
    | some p => asCore (load Settings.read p)
    | none => pure {}
  let s := o.override initial
  orCore (s.validate.mapError Failure.config)
  return s

def loadSources (s : Settings) (spec : FilePath) : ExceptT CommandFailure m (List SourceFile) := do
  let api ← asCore (load Api.read spec)
  orCore (s.generate (Framework.jaxrs s.edition) Markdown.toHtml api)

/-- The sources of all models, rendered before anything is written. -/
def sources (o : GenerateOptions) : ExceptT CommandFailure m (List SourceFile) := do
  let s ← o.resolveSettings
  let specs ← s.discover
  return (← specs.mapM (loadSources s)).flatten

def execute (o : GenerateOptions) : ExceptT CommandFailure m Unit := do
  let all ← o.sources
  let _ ← asCore (writeSources o.outputDir all)

end GenerateOptions

end Jaxrs
