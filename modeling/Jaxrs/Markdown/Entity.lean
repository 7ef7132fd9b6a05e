import Jaxrs.Markdown.Entity.Table
import Jaxrs.Markdown.Punctuation
import Jaxrs.Text.Digits
import Jaxrs.Text.Segment

/-!
Character references and backslash escapes. A reference that names no character stands for
itself, and so does a backslash in front of anything but punctuation of ASCII.
-/

set_option autoImplicit false

namespace Jaxrs.Markdown

open Text

def parseEntity (entry : List Char) : String × String :=
  let (name, codes) := entry.span (· != '=')
  (String.ofList name,
    String.ofList ((cut (· == '+') (codes.drop 1)).map
      fun code => Char.ofNat ((radixValue? 16 code).getD 0)))

def entities : List (String × String) :=
  (cut (fun c => c == ' ' || c == '\n') entityTable.toList).map parseEntity

/-- The character with a number, where zero stands for the replacement character. -/
def charOfNumber? (n : Nat) : Option Char :=
  if n = 0 then some '\uFFFD' else if n.isValidChar then some (Char.ofNat n) else none

/-- The character that the digits of a numeric reference stand for; they end in a semicolon. -/
def numericReference? (radix maxDigits : Nat) (isDigit : Char → Bool) (s : List Char) :
    Option (Char × Nat) := do
  let digits := s.takeWhile isDigit
  guard (digits.length ≤ maxDigits)
  guard (s[digits.length]? == some ';')
  let c ← charOfNumber? (← radixValue? radix digits)
  some (c, digits.length + 1)

def isHexDigit (c : Char) : Bool :=
  (hexDigit? c).isSome

/--
What a reference stands for, given what follows its ampersand, and how many characters it takes
there.
-/
def reference? : List Char → Option (List Char × Nat)
  | '#' :: 'x' :: rest | '#' :: 'X' :: rest =>
    (numericReference? 16 6 isHexDigit rest).map fun (c, n) => ([c], n + 2)
  | '#' :: rest => (numericReference? 10 7 Char.isDigit rest).map fun (c, n) => ([c], n + 1)
  | s => do
    let name := s.takeWhile Char.isAlphanum
    guard (s[name.length]? == some ';')
    let value ← entities.lookup (String.ofList name)
    some (value.toList, name.length + 1)

/-- References and escapes replaced by what they stand for. -/
def unescape : List Char → List Char
  | [] => []
  | '\\' :: c :: rest =>
    if isAsciiPunctuation c then c :: unescape rest else '\\' :: unescape (c :: rest)
  | c :: rest =>
    if c == '&' then
      match reference? rest with
      | some (value, n) => value ++ unescape (rest.drop n)
      | none => c :: unescape rest
    else c :: unescape rest
termination_by s => s.length
decreasing_by all_goals simp only [List.length_cons, List.length_drop]; omega

end Jaxrs.Markdown
