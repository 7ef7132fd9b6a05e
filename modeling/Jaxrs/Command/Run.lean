import Jaxrs.Command.Line

/-!
Running commands. A run ends with an exit code, what it printed and, if it failed, the diagnostic
of the failure.
-/

set_option autoImplicit false

namespace Jaxrs

structure Outcome where
  code : Nat
  output : String := ""
  diagnostic : Option String := none
  deriving DecidableEq, Repr

def versionLine : String := "jaxrs-gen-cli 0.1.0\n"

variable {m : Type → Type} [Monad m] [FileAccess m]

/-- The header of a provider with the credentials in a file, as a line. -/
def authHeaderText (provider : String) (config : FilePath) : ExceptT CommandFailure m String := do
  let credentials ← asCore (load Credentials.read config)
  let line ← orCore ((credentials.headerLine .http provider).mapError Failure.header)
  return line ++ "\n"

/-- A text counts as printed once it has been written. -/
def printed (text : String) : Except FileError Unit → Except CommandFailure String
  | .ok () => .ok text
  | .error e => .error (.io e)

namespace Command

/-- What a command prints. -/
def output : Command → ExceptT CommandFailure m String
  | generate o => do
    o.execute
    return ""
  | authHeader provider config => authHeaderText provider config
  | version => return versionLine
  | help => return ""

end Command

def Outcome.ofResult : Except CommandFailure String → Outcome
  | .ok text => { code := 0, output := text }
  | .error f => { code := 1, diagnostic := some f.diagnostic }

def Outcome.rejected : Outcome := { code := 2 }

/-- Parses a command line and runs its command. -/
def runLine (environment : List (String × String)) (args : List String) : m Outcome := do
  match CommandLine.parse environment args with
  | none => return .rejected
  | some command => return .ofResult (← command.output)

end Jaxrs
