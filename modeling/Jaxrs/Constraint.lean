import Jaxrs.Interface
import Jaxrs.Schema.Basic

/-!
Constraints that the bounds, lengths and pattern of a schema put on a value.
-/

set_option autoImplicit false

namespace Jaxrs

namespace Number

/-- An integer bound for an integral value, else a decimal one; none without a finite number. -/
def bound? (integral : Bool) (whole : Int → Constraint) (decimal : String → Constraint)
    (n : Number) : Option Constraint :=
  match n.signed?, integral with
  | some i, true => some (whole i)
  | _, _ => n.text?.map decimal

end Number

/-- A size constraint if there is a bound at all. -/
def Constraint.sizes (min max : Option Nat) : List Constraint :=
  if min.isSome || max.isSome then [.size min max] else []

namespace ValueSchema

def isIntegral (v : ValueSchema) : Bool :=
  v.type.primary? == some .integer

def constraints (v : ValueSchema) : List Constraint :=
  (v.minimum.bind (Number.bound? v.isIntegral .min .decimalMin)).toList ++
    (v.maximum.bind (Number.bound? v.isIntegral .max .decimalMax)).toList ++
    Constraint.sizes v.minLength v.maxLength ++
    (v.pattern.map Constraint.pattern).toList

end ValueSchema

def Schema.constraints : Option Schema → List Constraint
  | some (.value v) => v.constraints
  | some (.array _ minItems maxItems) => Constraint.sizes minItems maxItems
  | _ => []

end Jaxrs
