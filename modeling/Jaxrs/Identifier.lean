import Jaxrs.Text.Segment

/-!
Java identifiers over the ASCII letters, digits, `_` and `$`. A qualified name is a sequence of
identifiers separated by dots; no segment of it may be a reserved word.
-/

set_option autoImplicit false

namespace Jaxrs

/-- Keywords and literals of Java, and the lone underscore. -/
def reservedWords : List String :=
  ["abstract", "assert", "boolean", "break", "byte", "case", "catch", "char", "class", "const",
   "continue", "default", "do", "double", "else", "enum", "extends", "false", "final", "finally",
   "float", "for", "goto", "if", "implements", "import", "instanceof", "int", "interface", "long",
   "native", "new", "null", "package", "private", "protected", "public", "return", "short",
   "static", "strictfp", "super", "switch", "synchronized", "this", "throw", "throws",
   "transient", "true", "try", "void", "volatile", "while", "_"]

def isReservedWord (s : String) : Bool :=
  reservedWords.contains s

namespace Identifier

def isStart (c : Char) : Bool :=
  c.isAlpha || c == '_' || c == '$'

def isPart (c : Char) : Bool :=
  isStart c || c.isDigit

/-- The shape of an identifier, reserved words included. -/
def isShaped : List Char → Bool
  | [] => false
  | c :: rest => isStart c && rest.all isPart

end Identifier

def isIdentifier (s : String) : Bool :=
  Identifier.isShaped s.toList && !isReservedWord s

def isQualifiedName (s : String) : Bool :=
  (Text.segments '.' s).all isIdentifier

/-- The package of a qualified name, empty if there is none, and its simple name. -/
def splitQualified (name : String) : String × String :=
  match Text.splitLast '.' name with
  | (owner, simple) => (owner.getD "", simple)

def simpleName (name : String) : String :=
  (splitQualified name).2

end Jaxrs
