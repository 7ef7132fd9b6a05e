import Jaxrs.Annotation
import Jaxrs.Schema.Basic

/-!
Descriptions of an API: resources, their operations, and the arguments and responses of those, all
in document order.
-/

set_option autoImplicit false

namespace Jaxrs

/-- Where in a request an argument comes from. -/
inductive Location where
  | path
  | query
  | header
  | cookie
  | body
  | unclassified (name : String)
  deriving DecidableEq, Repr

namespace Location

def ofName (s : String) : Location :=
  match s with
  | "path" => path
  | "query" => query
  | "header" => header
  | "cookie" => cookie
  | "body" => body
  | s => unclassified s

def name : Location → String
  | path => "path"
  | query => "query"
  | header => "header"
  | cookie => "cookie"
  | body => "body"
  | unclassified s => s

end Location

structure Argument where
  name : String
  location : Location
  required : Bool
  schema : Option Schema
  /-- A signature of a named data type is given; it has no effect. -/
  hasSignature : Bool
  annotations : List Annotation
  deriving Repr

structure Response where
  schema : Option Schema
  deriving Repr

structure Operation where
  name : String
  path : Option String
  verb : String
  description : Option String
  produces : Option (List String)
  consumes : Option (List String)
  /-- Without it the operation follows the project. -/
  async : Option Bool
  arguments : List Argument
  /-- Without it the operation has no content to return. -/
  response : Option Response
  deriving Repr

structure Resource where
  package : String
  name : String
  path : String
  operations : List Operation
  deriving Repr

structure Api where
  name : String
  version : Option String
  /-- Comes before the path of every resource. -/
  contextRoot : String
  resources : List Resource
  deriving Repr

end Jaxrs
