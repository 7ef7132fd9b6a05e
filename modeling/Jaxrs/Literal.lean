import Jaxrs.Text.Segment

/-!
Java literals of strings and string arrays.
-/

set_option autoImplicit false

namespace Jaxrs.Literal

def escape : Char → List Char
  | '"' => ['\\', '"']
  | '\\' => ['\\', '\\']
  | '\n' => ['\\', 'n']
  | '\r' => ['\\', 'r']
  | '\t' => ['\\', 't']
  | c => [c]

def quote (s : List Char) : List Char :=
  '"' :: s.flatMap escape ++ ['"']

def string (s : String) : String :=
  String.ofList (quote s.toList)

def stringArray (values : List String) : String :=
  "\x7b" ++ Text.joinWith ", " (values.map string) ++ "\x7d"

end Jaxrs.Literal
