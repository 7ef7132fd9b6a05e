import Jaxrs.Annotation
import Jaxrs.Failure
import Jaxrs.JavaType

/-!
Interfaces to be generated: methods and parameters with their types, and what is known about them
in terms that no framework has a say in.
-/

set_option autoImplicit false

namespace Jaxrs

inductive Verb where
  | get
  | post
  | put
  | delete
  | head
  | options
  | patch
  deriving DecidableEq, Repr

namespace Verb

def all : List Verb := [get, post, put, delete, head, options, patch]

def name : Verb → String
  | get => "GET"
  | post => "POST"
  | put => "PUT"
  | delete => "DELETE"
  | head => "HEAD"
  | options => "OPTIONS"
  | patch => "PATCH"

/-- Letter case does not matter. -/
def ofName (s : String) : Except Failure Verb :=
  match all.find? (·.name == String.ofList (s.toList.map Char.toUpper)) with
  | some v => .ok v
  | none => .error (.render (.verb s))

end Verb

/-- Where the value of a parameter comes from, with the parameter's name in the request. -/
inductive Binding where
  | path (name : String)
  | query (name : String)
  | header (name : String)
  | cookie (name : String)
  | unbound
  deriving DecidableEq, Repr

/-- What must hold of the value of a parameter. -/
inductive Constraint where
  | notNull
  | min (bound : Int)
  | max (bound : Int)
  | decimalMin (bound : String)
  | decimalMax (bound : String)
  | size (min max : Option Nat)
  | pattern (regex : String)
  deriving DecidableEq, Repr

structure Parameter where
  name : String
  type : JavaType
  binding : Binding
  constraints : List Constraint
  /-- Come after all that the binding and the constraints ask for. -/
  annotations : List Annotation
  deriving Repr

structure Method where
  name : String
  doc : Option String
  path : Option String
  verb : Verb
  produces : List String
  consumes : List String
  returnType : JavaType
  parameters : List Parameter
  deriving Repr

structure Interface where
  package : String
  name : String
  path : String
  methods : List Method
  deriving Repr

end Jaxrs
