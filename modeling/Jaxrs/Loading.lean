import Jaxrs.Api.Reading
import Jaxrs.Credentials
import Jaxrs.Document.Json
import Jaxrs.Document.Yaml
import Jaxrs.FileAccess
import Jaxrs.Settings.Reading

/-!
Loading documents from files. The extension of a file names its format; it is looked at only after
the file has been read.
-/

set_option autoImplicit false

namespace Jaxrs

/-- The format of a document. -/
inductive Format where
  | json
  | yaml
  deriving DecidableEq, Repr

namespace Format

def ofExtension? : String → Option Format
  | "json" => some json
  | "yaml" => some yaml
  | "yml" => some yaml
  | _ => none

def ofPath? (p : FilePath) : Option Format :=
  p.extension?.bind ofExtension?

/-- A document of this format, read as a value; the failure is the format's own. -/
def read {α : Type} (f : Format) (reader : Node → Option α) (text : String) : Except Failure α :=
  match f with
  | json => ((Json.read? text).bind reader).elim (.error .json) .ok
  | yaml => ((Yaml.read? text).bind reader).elim (.error .yaml) .ok

end Format

/-- The value that the text of a file stands for. -/
def readDocument {α : Type} (reader : Node → Option α) (unsupported : Failure) (p : FilePath)
    (text : String) : Except Failure α :=
  match Format.ofPath? p with
  | some f => f.read reader text
  | none => .error unsupported

def Api.read (p : FilePath) (text : String) : Except Failure Api :=
  readDocument Api.ofNode? (.modelExtension p.text) p text

/-- Settings from a file have to be valid. -/
def Settings.read (p : FilePath) (text : String) : Except Failure Settings := do
  let s ← readDocument Settings.ofNode? (.config (.settingsExtension p.text)) p text
  s.validate.mapError Failure.config
  return s

def Credentials.read (p : FilePath) (text : String) : Except Failure Credentials :=
  readDocument Credentials.ofNode? (.config (.credentialsExtension p.text)) p text

variable {m : Type → Type} [Monad m] [FileAccess m] {α : Type}

/-- A value from the text of a file. -/
def load (reader : FilePath → String → Except Failure α) (p : FilePath) : ExceptT Failure m α := do
  match ← FileAccess.readText (m := m) p with
  | .error e => throw (.io e)
  | .ok text => liftExcept (reader p text)
where
  liftExcept (e : Except Failure α) : ExceptT Failure m α :=
    ExceptT.mk (pure e)

end Jaxrs
