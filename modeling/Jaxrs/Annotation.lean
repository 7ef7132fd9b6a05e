/-!
Annotations with named literal values.
-/

set_option autoImplicit false

namespace Jaxrs

/-- The literal is source text, with the quotes of a string included. -/
structure AnnotationValue where
  name : String
  literal : String
  deriving DecidableEq, Repr

/-- The name includes the package. -/
structure Annotation where
  name : String
  values : List AnnotationValue := []
  deriving DecidableEq, Repr

namespace Annotation

/-- An annotation with a single value, under the name that may be left out in source text. -/
def single (name literal : String) : Annotation :=
  ⟨name, [⟨"value", literal⟩]⟩

end Annotation

end Jaxrs
