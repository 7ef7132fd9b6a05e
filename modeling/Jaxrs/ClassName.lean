import Jaxrs.Text.Segment

/-!
Class names in upper camel case. A name is cut into runs of ASCII letters and digits, each run
into words by letter case, and the capitalized words are put together. A name that would start
with a digit gets an underscore in front.
-/

set_option autoImplicit false

namespace Jaxrs.ClassName

/-- The letter case last seen in the current word. -/
inductive LetterCase where
  | boundary
  | lower
  | upper
  deriving DecidableEq, Repr

def LetterCase.after (seen : LetterCase) (c : Char) : LetterCase :=
  if c.isLower then .lower else if c.isUpper then .upper else seen

/--
The words of a run, where `word` holds the current word's letters so far, last letter first.
A word ends after a lower-case letter that an upper-case one follows, and before the last of
several upper-case letters that a lower-case one follows.
-/
def words (seen : LetterCase) (word : List Char) : List Char → List (List Char)
  | [] => [word.reverse]
  | [c] => [(c :: word).reverse]
  | c :: next :: rest =>
    if seen.after c = .lower && next.isUpper then
      (c :: word).reverse :: words .boundary [] (next :: rest)
    else if seen = .upper && c.isUpper && next.isLower then
      word.reverse :: words .boundary [c] (next :: rest)
    else words (seen.after c) (c :: word) (next :: rest)

def capitalize : List Char → List Char
  | [] => []
  | c :: rest => c.toUpper :: rest.map Char.toLower

/-- The capitalized words of a name. -/
def camel (name : List Char) : List Char :=
  (Text.cut (! ·.isAlphanum) name).flatMap fun run => (words .boundary [] run).flatMap capitalize

/-- Empty if the name has no ASCII letter or digit. -/
def ofName (name : String) : String :=
  match camel name.toList with
  | [] => ""
  | c :: rest => String.ofList (if c.isDigit then '_' :: c :: rest else c :: rest)

end Jaxrs.ClassName
