/-!
Texts cut at a separating character and put together again. A text with `n` separators has
`n + 1` segments, some of which may be empty, and joining them with the separator gives the
text back.
-/

set_option autoImplicit false

namespace Jaxrs.Text

/-- The stretches of a text between characters that satisfy `isCut`. -/
def cut (isCut : Char → Bool) : List Char → List (List Char)
  | [] => [[]]
  | c :: rest =>
    if isCut c then [] :: cut isCut rest
    else match cut isCut rest with
      | [] => [[c]]
      | first :: others => (c :: first) :: others

def segments (separator : Char) (s : String) : List String :=
  (cut (· == separator) s.toList).map String.ofList

/-- The text before the last separator, if there is one, and the text after it. -/
def splitLast (separator : Char) (s : String) : Option String × String :=
  match s.toList.reverse.span (· != separator) with
  | (_, []) => (none, s)
  | (last, _ :: before) => (some (String.ofList before.reverse), String.ofList last.reverse)

def joinWith (separator : String) : List String → String
  | [] => ""
  | [s] => s
  | s :: rest => s ++ separator ++ joinWith separator rest

end Jaxrs.Text
