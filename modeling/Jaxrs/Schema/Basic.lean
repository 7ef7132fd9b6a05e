import Jaxrs.Number

/-!
Schemas of argument and response values: a reference to a named schema, a single value with its
type, format and bounds, an array, or a composite of other schemas.
-/

set_option autoImplicit false

namespace Jaxrs

inductive DataType where
  | object
  | string
  | integer
  | number
  | boolean
  | array
  | null
  deriving DecidableEq, Repr

namespace DataType

def all : List DataType := [object, string, integer, number, boolean, array, null]

def name : DataType → String
  | object => "object"
  | string => "string"
  | integer => "integer"
  | number => "number"
  | boolean => "boolean"
  | array => "array"
  | null => "null"

def ofName? (s : String) : Option DataType :=
  all.find? (·.name == s)

end DataType

/-- The types a value may have. -/
inductive TypeChoice where
  | one (t : DataType)
  | among (ts : List DataType)
  | anything
  deriving DecidableEq, Repr

/-- The first type that is not null. -/
def TypeChoice.primary? : TypeChoice → Option DataType
  | one t => some t
  | among ts => ts.find? (· != .null)
  | anything => none

/-- What a schema says of a single value. -/
structure ValueSchema where
  type : TypeChoice
  format : Option String
  minimum : Option Number
  maximum : Option Number
  minLength : Option Nat
  maxLength : Option Nat
  pattern : Option String
  deriving DecidableEq, Repr

inductive Schema where
  | reference (location : String)
  | value (v : ValueSchema)
  /-- Without an item schema the array has no items. -/
  | array (items : Option Schema) (minItems maxItems : Option Nat)
  | oneOf (schemas : List Schema)
  | allOf (schemas : List Schema)
  | anyOf (schemas : List Schema)
  deriving Repr

end Jaxrs
