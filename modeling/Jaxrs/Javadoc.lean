import Jaxrs.Text.Blank
import Jaxrs.Text.Segment

/-!
Documentation comments. The end mark of a comment is written so that it does not end it, lines
lose the white space at their ends, and so does the text as a whole.
-/

set_option autoImplicit false

namespace Jaxrs.Javadoc

/-- The character reference of a slash. -/
def slashReference : List Char :=
  "&#47;".toList

/-- The slash of every end mark becomes a character reference. -/
def escape : List Char → List Char
  | '*' :: '/' :: rest => '*' :: (slashReference ++ escape rest)
  | c :: rest => c :: escape rest
  | [] => []

/-- The lines of a text that does not end with a line feed. -/
def linesOf (text : List Char) : List (List Char) :=
  if text.isEmpty then [] else Text.cut (· == '\n') text

def bodyLine (line : List Char) : String :=
  match Text.trimEnd line with
  | [] => " *"
  | c :: rest => " * " ++ String.ofList (c :: rest)

/-- A documentation comment for a text, line by line. -/
def comment (text : String) : List String :=
  "/**" :: (linesOf (escape (Text.trim text.toList))).map bodyLine ++ [" */"]

end Jaxrs.Javadoc
