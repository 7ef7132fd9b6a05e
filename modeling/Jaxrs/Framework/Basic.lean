import Jaxrs.Interface

/-!
Target frameworks. A framework says which annotations stand for the paths, verbs, media types,
bindings and constraints of an interface.
-/

set_option autoImplicit false

namespace Jaxrs

structure Framework where
  /-- The documentation of every interface. -/
  interfaceDoc : String
  path : String → Annotation
  verb : Verb → Annotation
  produces : List String → Annotation
  consumes : List String → Annotation
  /-- None if nothing is bound. -/
  binding : Binding → Option Annotation
  constraint : Constraint → Annotation

end Jaxrs
