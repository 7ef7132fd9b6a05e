/-!
What can go wrong, by cause. Every failure belongs to a category, whose title comes before the
text of the cause.
-/

set_option autoImplicit false

namespace Jaxrs

inductive Category where
  | io
  | json
  | yaml
  | config
  | render
  | transport
  | general
  deriving DecidableEq, Repr

namespace Category

def title : Category → String
  | io => "IO Error"
  | json => "JSON Error"
  | yaml => "YAML Error"
  | config => "Config Error"
  | render => "Render Error"
  | transport => "Transport Error"
  | general => "General Error"

def report (c : Category) (cause : String) : String :=
  c.title ++ ": " ++ cause

end Category

/-- A file operation that failed. -/
inductive FileError where
  | notFound
  | alreadyExists
  | notDirectory
  | isDirectory
  | notText
  | brokenPipe
  /-- Any other failure that a real disk reports. -/
  | other (report : String)
  deriving DecidableEq, Repr

namespace FileError

def message : FileError → String
  | notFound => "No such file or directory (os error 2)"
  | alreadyExists => "File exists (os error 17)"
  | notDirectory => "Not a directory (os error 20)"
  | isDirectory => "Is a directory (os error 21)"
  | notText => "stream did not contain valid UTF-8"
  | brokenPipe => "broken pipe"
  | other report => report

end FileError

inductive ConfigError where
  | basePackage (name : String)
  | beanPackage (name : String)
  | noIndent
  | settingsExtension (path : String)
  | credentialsExtension (path : String)
  deriving DecidableEq, Repr

namespace ConfigError

def message : ConfigError → String
  | basePackage name => "Invalid base-package: '" ++ name ++ "'"
  | beanPackage name => "Invalid bean-package: '" ++ name ++ "'"
  | noIndent => "formatter.indent-size must be positive"
  | settingsExtension path => "Unsupported settings file extension: " ++ path
  | credentialsExtension path => "Unsupported auth config file extension: " ++ path

end ConfigError

inductive RenderError where
  | verb (name : String)
  | package (name : String)
  | interface (name : String)
  | method (name owner : String)
  | parameter (name owner : String)
  | voidParameter (name owner : String)
  | annotationName (name : String)
  | type (name : String)
  deriving DecidableEq, Repr

namespace RenderError

def message : RenderError → String
  | verb name => "Unsupported HTTP method: '" ++ name ++ "'"
  | package name => "Invalid package name: '" ++ name ++ "'"
  | interface name => "Invalid interface name: '" ++ name ++ "'"
  | method name owner => "Invalid method name '" ++ name ++ "' in interface " ++ owner
  | parameter name owner => "Invalid parameter name '" ++ name ++ "' in method " ++ owner
  | voidParameter name owner => "Parameter '" ++ name ++ "' of method " ++ owner ++
      " cannot be void"
  | annotationName name => "Invalid annotation name: '" ++ name ++ "'"
  | type name => "Invalid type name: '" ++ name ++ "'"

end RenderError

/-- Why a header cannot be sent or shown. -/
inductive HeaderFailure where
  /-- What the credentials of a provider come to is no value of a header. -/
  | invalid (provider : String)
  | notPrintable
  deriving DecidableEq, Repr

namespace HeaderFailure

def cause : HeaderFailure → String
  | invalid provider => "Invalid Authorization header for provider '" ++ provider ++
      "': failed to parse header value"
  | notPrintable => "Header is not printable: failed to convert header to a str"

/-- A header that cannot be shown is a failure of the command that is to show it. -/
def message (e : HeaderFailure) : String :=
  match e with
  | invalid _ => Category.report .transport e.cause
  | notPrintable => "Operation failed: " ++ e.cause

end HeaderFailure

inductive Failure where
  | io (e : FileError)
  /-- A malformed JSON document, or one with an unexpected shape. -/
  | json
  /-- A malformed YAML document, or one with an unexpected shape. -/
  | yaml
  | config (e : ConfigError)
  | render (e : RenderError)
  | modelExtension (path : String)
  | header (e : HeaderFailure)
  deriving DecidableEq, Repr

namespace Failure

def category : Failure → Category
  | io _ => .io
  | json => .json
  | yaml => .yaml
  | config _ => .config
  | render _ => .render
  | modelExtension _ => .general
  | header (.invalid _) => .transport
  | header .notPrintable => .general

def cause : Failure → String
  | io e => e.message
  | json => "malformed document"
  | yaml => "malformed document"
  | config e => e.message
  | render e => e.message
  | modelExtension path => "Unsupported model file extension: " ++ path
  | header e => e.cause

def message (f : Failure) : String :=
  match f with
  | header e => e.message
  | f => f.category.report f.cause

end Failure

end Jaxrs
