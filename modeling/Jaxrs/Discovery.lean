import Jaxrs.Command.Failure
import Jaxrs.FileAccess
import Jaxrs.Loading

/-!
Finding the models to generate from: the configured one, or else every model below the input
directory, in the order of the names that lead to it.
-/

set_option autoImplicit false

namespace Jaxrs

def isModelPath (p : FilePath) : Bool :=
  (Format.ofPath? p).isSome

/-- Places name by name, each name by its characters. -/
def placeOrder (a b : Place) : Bool :=
  !b.lex a fun s t => decide (s < t)

/-- The path of a place below a directory. -/
def FilePath.descend (base : FilePath) (place : Place) : FilePath :=
  place.foldl (fun p name => p.join ⟨name⟩) base

def defaultInputDirectory : FilePath := ⟨"src/main/openapi"⟩

variable {m : Type → Type} [Monad m] [FileAccess m]

def modelsBelow (base : FilePath) : m (List FilePath) := do
  let places ← FileAccess.filesBelow base
  return ((places.mergeSort placeOrder).map base.descend).filter isModelPath

def Settings.discover (s : Settings) : ExceptT CommandFailure m (List FilePath) := do
  match s.resolvedSpec with
  | some spec =>
    if ← FileAccess.isFile (m := m) spec then return [spec]
    else throw (.specNotFound spec)
  | none =>
    let base := s.inputBaseDir.getD defaultInputDirectory
    if ← FileAccess.isDirectory (m := m) base then modelsBelow (m := m) base
    else throw (.inputDirectoryNotFound base)

end Jaxrs
