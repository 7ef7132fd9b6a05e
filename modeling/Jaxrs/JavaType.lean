import Jaxrs.Text.Segment

/-!
Java types: the primitives a schema can ask for, `void`, and named classes with type arguments.
`boxed` gives the reference type that stands for a type where a type argument is needed.
-/

set_option autoImplicit false

namespace Jaxrs

inductive Primitive where
  | boolean
  | int
  | long
  | float
  | double
  deriving DecidableEq, Repr

namespace Primitive

def keyword : Primitive → String
  | boolean => "boolean"
  | int => "int"
  | long => "long"
  | float => "float"
  | double => "double"

def className : Primitive → String
  | boolean => "java.lang.Boolean"
  | int => "java.lang.Integer"
  | long => "java.lang.Long"
  | float => "java.lang.Float"
  | double => "java.lang.Double"

end Primitive

/-- The name of a class includes its package. -/
inductive JavaType where
  | primitive (p : Primitive)
  | void
  | named (name : String) (args : List JavaType)
  deriving Repr

namespace JavaType

/-- A class without type arguments. -/
abbrev plain (name : String) : JavaType :=
  named name []

def object : JavaType := plain "java.lang.Object"

def inputStream : JavaType := plain "java.io.InputStream"

/-- A value of this type is always there. -/
def isPrimitive : JavaType → Bool
  | primitive _ => true
  | void => true
  | named _ _ => false

def isVoid : JavaType → Bool
  | void => true
  | _ => false

def boxed : JavaType → JavaType
  | primitive p => plain p.className
  | void => plain "java.lang.Void"
  | named name args => named name args

mutual

/-- Every class name in the type, a class before its arguments. -/
def classNames : JavaType → List String
  | primitive _ => []
  | void => []
  | named name args => name :: classNamesOfList args

def classNamesOfList : List JavaType → List String
  | [] => []
  | t :: rest => classNames t ++ classNamesOfList rest

end

mutual

/-- The type as source text, with classes spelled by `spell`. -/
def render (spell : String → String) : JavaType → String
  | primitive p => p.keyword
  | void => "void"
  | named name [] => spell name
  | named name (a :: args) =>
    spell name ++ "<" ++ Text.joinWith ", " (render spell a :: renderList spell args) ++ ">"

def renderList (spell : String → String) : List JavaType → List String
  | [] => []
  | t :: rest => render spell t :: renderList spell rest

end

def text (t : JavaType) : String :=
  t.render id

end JavaType

end Jaxrs
