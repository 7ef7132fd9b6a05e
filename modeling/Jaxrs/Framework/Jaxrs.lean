import Jaxrs.Framework.Basic
import Jaxrs.Literal
import Jaxrs.Settings.Basic

/-!
The annotations of JAX-RS and Bean Validation, under the root package of an edition.
-/

set_option autoImplicit false

namespace Jaxrs.Framework

def webService (edition : Edition) (name : String) : String :=
  edition.root ++ ".ws.rs." ++ name

def validation (edition : Edition) (name : String) : String :=
  edition.root ++ ".validation.constraints." ++ name

def bindingAnnotation (edition : Edition) : Binding → Option Annotation
  | .path name => some (.single (webService edition "PathParam") (Literal.string name))
  | .query name => some (.single (webService edition "QueryParam") (Literal.string name))
  | .header name => some (.single (webService edition "HeaderParam") (Literal.string name))
  | .cookie name => some (.single (webService edition "CookieParam") (Literal.string name))
  | .unbound => none

/-- Only the bounds that are there. -/
def sizeValues (min max : Option Nat) : List AnnotationValue :=
  (min.map fun n => ⟨"min", toString n⟩).toList ++ (max.map fun n => ⟨"max", toString n⟩).toList

def constraintAnnotation (edition : Edition) : Constraint → Annotation
  | .notNull => { name := validation edition "NotNull" }
  | .min n => .single (validation edition "Min") (toString n)
  | .max n => .single (validation edition "Max") (toString n)
  | .decimalMin s => .single (validation edition "DecimalMin") (Literal.string s)
  | .decimalMax s => .single (validation edition "DecimalMax") (Literal.string s)
  | .size min max => ⟨validation edition "Size", sizeValues min max⟩
  | .pattern s => ⟨validation edition "Pattern", [⟨"regexp", Literal.string s⟩]⟩

def jaxrs (edition : Edition) : Framework where
  interfaceDoc := "A JAX-RS interface. An implementation of this interface must be provided."
  path p := .single (webService edition "Path") (Literal.string p)
  verb v := { name := webService edition v.name }
  produces types := .single (webService edition "Produces") (Literal.stringArray types)
  consumes types := .single (webService edition "Consumes") (Literal.stringArray types)
  binding := bindingAnnotation edition
  constraint := constraintAnnotation edition

end Jaxrs.Framework
