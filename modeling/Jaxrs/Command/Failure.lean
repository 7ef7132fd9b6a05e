import Jaxrs.Failure
import Jaxrs.FilePath
import Jaxrs.Text.Printable

/-!
Failures of a command, and the two texts of a failure: the message, and the diagnostic line that
shows how the failure came about.
-/

set_option autoImplicit false

namespace Jaxrs

inductive CommandFailure where
  /-- Writing the command's own output failed. -/
  | io (e : FileError)
  | core (f : Failure)
  | specNotFound (p : FilePath)
  | inputDirectoryNotFound (p : FilePath)
  deriving DecidableEq, Repr

namespace Diagnostic

/-- A character inside a quoted diagnostic text. -/
def escape (c : Char) : List Char :=
  match c with
  | '\x00' => ['\\', '0']
  | '\t' => ['\\', 't']
  | '\r' => ['\\', 'r']
  | '\n' => ['\\', 'n']
  | '"' => ['\\', '"']
  | '\\' => ['\\', '\\']
  | c =>
    if Text.isPrintable c then [c]
    else "\\u\x7b".toList ++ Nat.toDigits 16 c.toNat ++ ['\x7d']

def quote (s : String) : String :=
  String.ofList ('"' :: s.toList.flatMap escape ++ ['"'])

def application (name argument : String) : String :=
  name ++ "(" ++ argument ++ ")"

def system (code kind message : String) : String :=
  "Os \x7b code: " ++ code ++ ", kind: " ++ kind ++ ", message: " ++ quote message ++ " \x7d"

def ofFileError : FileError → String
  | .notFound => system "2" "NotFound" "No such file or directory"
  | .alreadyExists => system "17" "AlreadyExists" "File exists"
  | .notDirectory => system "20" "NotADirectory" "Not a directory"
  | .isDirectory => system "21" "IsADirectory" "Is a directory"
  | .notText =>
    "Error \x7b kind: InvalidData, message: " ++ quote FileError.notText.message ++ " \x7d"
  | .brokenPipe => "Kind(BrokenPipe)"
  | .other report => "Custom \x7b kind: Other, error: " ++ quote report ++ " \x7d"

/-- For a malformed document only its format is given. -/
def ofFailure (f : Failure) : String :=
  match f with
  | .io e => application "Io" (ofFileError e)
  | .json => "Json"
  | .yaml => "Yaml"
  | .config e => application "Config" (quote e.message)
  | .render e => application "Render" (quote e.message)
  | .modelExtension _ => application "General" (quote f.cause)
  | .header _ => application "Transport" (quote f.cause)

end Diagnostic

namespace CommandFailure

/-- What an operation of the command itself reports. -/
def cause : CommandFailure → String
  | io e => e.message
  | core f => f.cause
  | specNotFound p => "Model file not found: " ++ p.text
  | inputDirectoryNotFound p => "Input base directory not found: " ++ p.text

def message (f : CommandFailure) : String :=
  match f with
  | io e => Category.report .io e.message
  | core f => f.message
  | f => "Operation failed: " ++ f.cause

def diagnostic (f : CommandFailure) : String :=
  match f with
  | io e => "Error: " ++ Diagnostic.application "Io" (Diagnostic.ofFileError e)
  | core .json => "Error: Core(Json"
  | core .yaml => "Error: Core(Yaml"
  | core (.header .notPrintable) =>
    "Error: " ++
      Diagnostic.application "General" (Diagnostic.quote HeaderFailure.notPrintable.cause)
  | core f => "Error: " ++ Diagnostic.application "Core" (Diagnostic.ofFailure f)
  | f => "Error: " ++ Diagnostic.application "General" (Diagnostic.quote f.cause)

end CommandFailure

end Jaxrs
