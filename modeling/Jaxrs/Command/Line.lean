import Jaxrs.Command.Generate

/-!
Command lines. Options have a long name, perhaps a letter, and take one value, which is attached or
is the next argument; letters without a value can be written together. An option that is not given
takes its value from its environment variable. A line that does not follow these rules is rejected
as a whole.
-/

set_option autoImplicit false

namespace Jaxrs

inductive Command where
  | generate (options : GenerateOptions)
  | authHeader (provider : String) (config : FilePath)
  | version
  | help
  deriving DecidableEq, Repr

namespace CommandLine

/-- What the value of an option has to be. -/
inductive ValueKind where
  | path
  | text
  | flag
  deriving DecidableEq, Repr

def ValueKind.admits : ValueKind → String → Bool
  | path, s => !s.isEmpty
  | text, _ => true
  | flag, s => s == "true" || s == "false"

structure OptionSpec where
  name : String
  kind : ValueKind
  letter : Option Char := none
  environmentName : Option String := none
  deriving Repr

def generateSpecs : List OptionSpec :=
  [{ name := "config", kind := .path, environmentName := some "JAXRS_GEN_CONFIG" },
   { name := "spec", kind := .path, environmentName := some "JAXRS_GEN_SPEC" },
   { name := "input-base-dir", kind := .path, environmentName := some "JAXRS_GEN_INPUT_BASE_DIR" },
   { name := "base-package", kind := .text, environmentName := some "JAXRS_GEN_BASE_PACKAGE" },
   { name := "reactive", kind := .flag, environmentName := some "JAXRS_GEN_REACTIVE" },
   { name := "mutiny", kind := .flag, environmentName := some "JAXRS_GEN_MUTINY" },
   { name := "return-response", kind := .flag,
     environmentName := some "JAXRS_GEN_RETURN_RESPONSE" },
   { name := "output-dir", kind := .path, letter := some 'o' }]

def authHeaderSpecs : List OptionSpec :=
  [{ name := "provider", kind := .text },
   { name := "config", kind := .path, environmentName := some "JAXRS_GEN_AUTH_CONFIG" }]

/-- The environment variables that can give a value to an option. -/
def environmentNames : List String :=
  (generateSpecs ++ authHeaderSpecs).filterMap (·.environmentName)

/-- What has been read of the options of a command. -/
structure Given where
  values : List (String × String) := []
  isVerbose : Bool := false
  deriving Repr

/-- An option is given once, with a value of its kind. -/
def Given.add (g : Given) (spec : OptionSpec) (value : String) : Option Given :=
  if (g.values.lookup spec.name).isSome || !spec.kind.admits value then none
  else some { g with values := (spec.name, value) :: g.values }

def Given.beVerbose (g : Given) : Option Given :=
  if g.isVerbose then none else some { g with isVerbose := true }

/-- What the letters after a dash come to. -/
inductive Letters where
  | given (g : Given)
  /-- The last letter is an option whose value is the next argument. -/
  | wantsValue (spec : OptionSpec) (g : Given)
  | help
  | version

def readLetters (specs : List OptionSpec) (hasVersion : Bool) (g : Given) :
    List Char → Option Letters
  | [] => some (.given g)
  | 'v' :: rest => do readLetters specs hasVersion (← g.beVerbose) rest
  | 'h' :: _ => some .help
  | c :: rest =>
    if c == 'V' && hasVersion then some .version
    else
      match specs.find? (·.letter == some c), rest with
      | none, _ => none
      | some spec, [] => some (.wantsValue spec g)
      | some spec, '=' :: value => (g.add spec (String.ofList value)).map .given
      | some spec, value => (g.add spec (String.ofList value)).map .given

/-- An argument that looks like an option cannot be a value. -/
def looksLikeOption (s : String) : Bool :=
  match s.toList with
  | '-' :: _ :: _ => true
  | _ => false

/-- The name of a long option, and the value attached to it. -/
def splitLong (s : List Char) : String × Option String :=
  match s.span (· != '=') with
  | (name, []) => (String.ofList name, none)
  | (name, _ :: value) => (String.ofList name, some (String.ofList value))

/-- The options of a command up to the end of the line; none of a request for help. -/
def readOptions (specs : List OptionSpec) (g : Given) : List String → Option (Option Given)
  | [] => some (some g)
  | arg :: rest =>
    match arg.toList with
    | ['-', '-'] => if rest.isEmpty then some (some g) else none
    | '-' :: '-' :: long =>
      match splitLong long, rest with
      | ("help", none), _ => some none
      | ("verbose", none), rest => do readOptions specs (← g.beVerbose) rest
      | (name, attached), rest =>
        match specs.find? (·.name == name), attached, rest with
        | none, _, _ => none
        | some spec, some value, rest => do readOptions specs (← g.add spec value) rest
        | some _, none, [] => none
        | some spec, none, value :: rest =>
          if looksLikeOption value then none
          else do readOptions specs (← g.add spec value) rest
    | '-' :: c :: letters =>
      match readLetters specs false g (c :: letters), rest with
      | none, _ => none
      | some .help, _ => some none
      | some .version, _ => none
      | some (.given g), rest => readOptions specs g rest
      | some (.wantsValue _ _), [] => none
      | some (.wantsValue spec g), value :: rest =>
        if looksLikeOption value then none
        else do readOptions specs (← g.add spec value) rest
    | _ => none

/-- The values of all options, from the line or else from the environment. -/
def withEnvironment (specs : List OptionSpec) (environment : List (String × String)) (g : Given) :
    Option Given :=
  specs.foldlM (fun g spec =>
    match g.values.lookup spec.name, spec.environmentName.bind (environment.lookup ·) with
    | none, some value => g.add spec value
    | _, _ => some g) g

def Given.path? (g : Given) (name : String) : Option FilePath :=
  (g.values.lookup name).map FilePath.mk

def Given.flag? (g : Given) (name : String) : Option Bool :=
  (g.values.lookup name).map (· == "true")

def defaultOutputDir : FilePath := ⟨"target/generated-sources/jaxrs"⟩

def Given.generate (g : Given) : Command :=
  .generate
    { config := g.path? "config"
      spec := g.path? "spec"
      inputBaseDir := g.path? "input-base-dir"
      basePackage := g.values.lookup "base-package"
      reactive := g.flag? "reactive"
      mutiny := g.flag? "mutiny"
      returnResponse := g.flag? "return-response"
      outputDir := (g.path? "output-dir").getD defaultOutputDir }

def Given.authHeader? (g : Given) : Option Command := do
  some (.authHeader (← g.values.lookup "provider") (← g.path? "config"))

/-- A command after its name. -/
def command? (environment : List (String × String)) (name : String) (args : List String) :
    Option Command :=
  let parsed (specs : List OptionSpec) (make : Given → Option Command) : Option Command := do
    match ← readOptions specs {} args with
    | none => some .help
    | some g => make (← withEnvironment specs environment g)
  match name with
  | "generate" => parsed generateSpecs (some ·.generate)
  | "auth-header" => parsed authHeaderSpecs (·.authHeader?)
  | "help" =>
    match args with
    | [] => some .help
    | [topic] => if ["generate", "auth-header", "help"].contains topic then some .help else none
    | _ => none
  | _ => none

/-- What is asked for before the name of a command, and then the command. -/
def parseFrom (environment : List (String × String)) (g : Given) : List String → Option Command
  | [] => none
  | arg :: rest =>
    match arg.toList with
    | '-' :: '-' :: long =>
      match splitLong long with
      | ("help", none) => some .help
      | ("version", none) => some .version
      | ("verbose", none) => do parseFrom environment (← g.beVerbose) rest
      | _ => none
    | '-' :: c :: letters =>
      match readLetters [] true g (c :: letters) with
      | some .help => some .help
      | some .version => some .version
      | some (.given g) => parseFrom environment g rest
      | _ => none
    | _ => command? environment arg rest

def parse (environment : List (String × String)) (args : List String) : Option Command :=
  parseFrom environment {} args

end CommandLine

end Jaxrs
