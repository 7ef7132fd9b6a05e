import Jaxrs.Markdown.Emphasis
import Jaxrs.Markdown.RawHtml

/-!
The inlines of a paragraph. Code, HTML and links take their characters before emphasis is looked
for, and emphasis inside the text of a link stays inside it.
-/

set_option autoImplicit false

namespace Jaxrs.Markdown

open Text

/-- The characters up to a run of exactly `n` backticks, and what follows it. -/
def upToBackticks? (n : Nat) : List Char → Option (List Char × List Char)
  | [] => none
  | c :: rest =>
    if c == '\x60' then
      let more := (rest.takeWhile (· == '\x60')).length
      if more + 1 = n then some ([], rest.drop more)
      else (upToBackticks? n (rest.drop more)).map (prepend (List.replicate (more + 1) '\x60'))
    else (upToBackticks? n rest).map (prepend [c])
termination_by s => s.length
decreasing_by all_goals simp only [List.length_cons, List.length_drop]; omega

/-- Line ends are spaces, and one space on both sides only keeps backticks apart. -/
def codeText (s : List Char) : String :=
  let s := s.map fun c => if c == '\n' then ' ' else c
  if s.head? == some ' ' && s.getLast? == some ' ' && !s.all (· == ' ') then
    String.ofList (s.drop 1).dropLast
  else String.ofList s

/-- The address up to `>` of a text that starts with the name of a scheme. -/
def autolinkUri? (s : List Char) : Option (List Char) := do
  let uri := s.takeWhile fun c => c != '>' && c != '<' && 0x20 < c.toNat
  guard (s[uri.length]? == some '>')
  let scheme := uri.takeWhile fun c => c.isAlphanum || c == '.' || c == '-' || c == '+'
  guard (uri[scheme.length]? == some ':' && 2 ≤ scheme.length && scheme.length ≤ 32)
  guard (scheme.head?.any Char.isAlpha)
  some uri

def isDomainLabel (s : List Char) : Bool :=
  0 < s.length && s.length ≤ 63 && s.all (fun c => c.isAlphanum || c == '-') &&
    s.head? != some '-' && s.getLast? != some '-'

def isMailboxChar (c : Char) : Bool :=
  c.isAlphanum || ".!#$%&'*+/=?^_\x60\x7b|\x7d~-".toList.contains c

/-- The electronic mail address up to `>`. -/
def autolinkEmail? (s : List Char) : Option (List Char) := do
  let address := s.takeWhile (· != '>')
  guard (address.length < s.length)
  let mailbox := address.takeWhile isMailboxChar
  guard (0 < mailbox.length && address[mailbox.length]? == some '@')
  guard ((cut (· == '.') (address.drop (mailbox.length + 1))).all isDomainLabel)
  some address

def autolink? (s : List Char) : Option (Inline × Nat) :=
  let link (scheme : String) (address : List Char) :=
    let text := String.ofList address
    (Inline.link ⟨scheme ++ text, ""⟩ [.text text], address.length + 1)
  (autolinkUri? s).map (link "") <|> (autolinkEmail? s).map (link "mailto:")

/-- A bracket that may open the text of a link, with what follows it and the pieces before it. -/
structure Bracket where
  isImage : Bool
  /-- A link around another link is none. -/
  isActive : Bool
  source : List Char
  before : List Piece

def Bracket.asText (b : Bracket) : Piece :=
  .inline (.text (if b.isImage then "![" else "["))

/-- Pieces since the innermost open bracket, last first, and the open brackets. -/
structure Scan where
  pieces : List Piece := []
  brackets : List Bracket := []

namespace Scan

def add (s : Scan) (i : Inline) : Scan :=
  { s with pieces := .inline i :: s.pieces }

def addText (s : Scan) (chars : List Char) : Scan :=
  s.add (.text (String.ofList chars))

def openBracket (s : Scan) (isImage : Bool) (source : List Char) : Scan :=
  ⟨[], ⟨isImage, true, source, s.pieces⟩ :: s.brackets⟩

/-- The innermost bracket, and how many characters of a link follow the one that closes it. -/
def closeBracket (definitions : List Definition) (s : Scan) (after : List Char) : Scan × Nat :=
  match s.brackets with
  | [] => (s.addText [']'], 0)
  | b :: outer =>
    let asText : Scan := ⟨.inline (.text "]") :: s.pieces ++ b.asText :: b.before, outer⟩
    let text := b.source.take (b.source.length - (after.length + 1))
    match if b.isActive then linkTarget? definitions text after else none with
    | none => (asText, 0)
    | some (target, rest) =>
      let content := emphasize s.pieces.reverse
      let n := after.length - rest.length
      if b.isImage then (⟨.inline (.image target content) :: b.before, outer⟩, n)
      else
        let outer := outer.map fun b => { b with isActive := b.isImage && b.isActive }
        (⟨.inline (.link target content) :: b.before, outer⟩, n)

def blankCount (s : List Char) : Nat :=
  (s.takeWhile isLineBlank).length

/-- Blanks, which do not count at the end of a line, where two of them break it. -/
def blanks (s : Scan) (c : Char) (rest : List Char) : Scan × Nat :=
  let n := blankCount rest
  match rest.drop n with
  | '\n' :: next => (s.add (if n = 0 then .softBreak else .hardBreak), n + 1 + blankCount next)
  | _ => (s.addText (c :: rest.take n), n)

def backslash (s : Scan) : List Char → Scan × Nat
  | '\n' :: next => (s.add .hardBreak, 1 + blankCount next)
  | c :: _ => if isAsciiPunctuation c then (s.addText [c], 1) else (s.addText ['\\'], 0)
  | [] => (s.addText ['\\'], 0)

def backticks (s : Scan) (rest : List Char) : Scan × Nat :=
  let more := (rest.takeWhile (· == '\x60')).length
  match upToBackticks? (more + 1) (rest.drop more) with
  | some (code, after) => (s.add (.code (codeText code)), rest.length - after.length)
  | none => (s.addText (List.replicate (more + 1) '\x60'), more)

def lessThan (s : Scan) (rest : List Char) : Scan × Nat :=
  match autolink? rest with
  | some (link, n) => (s.add link, n)
  | none =>
    match RawHtml.inline? rest with
    | some after =>
      let n := rest.length - after.length
      (s.add (.html (String.ofList ('<' :: rest.take n))), n)
    | none => (s.addText ['<'], 0)

def marks (s : Scan) (before mark : Char) (rest : List Char) : Scan × Nat :=
  let more := (rest.takeWhile (· == mark)).length
  let run := Run.between mark (more + 1) before ((rest.drop more).headD '\n')
  ({ s with pieces := .run run :: s.pieces }, more)

def isPlain (c : Char) : Bool :=
  !(isLineBlank c || "\\\x60&<*_[]!\n\x00".toList.contains c)

/-- What `c` starts, and how many more characters that takes from `rest`. -/
def step (definitions : List Definition) (s : Scan) (before c : Char) (rest : List Char) :
    Scan × Nat :=
  if isLineBlank c then s.blanks c rest
  else match c with
    | '\n' => (s.add .softBreak, blankCount rest)
    | '\\' => s.backslash rest
    | '\x60' => s.backticks rest
    | '<' => s.lessThan rest
    | '*' | '_' => s.marks before c rest
    | '[' => (s.openBracket false rest, 0)
    | ']' => s.closeBracket definitions rest
    | '!' =>
      if rest.head? == some '[' then (s.openBracket true (rest.drop 1), 1)
      else (s.addText ['!'], 0)
    | '&' =>
      match reference? rest with
      | some (value, n) => (s.addText value, n)
      | none => (s.addText ['&'], 0)
    | '\x00' => (s.addText ['\uFFFD'], 0)
    | _ =>
      let more := rest.takeWhile isPlain
      (s.addText (c :: more), more.length)

def run (definitions : List Definition) (s : Scan) (before : Char) : List Char → Scan
  | [] => s
  | c :: rest =>
    let (s, n) := s.step definitions before c rest
    run definitions s ((rest.take n).getLastD c) (rest.drop n)
termination_by source => source.length
decreasing_by simp only [List.length_cons, List.length_drop]; omega

/-- Brackets that were not closed are text. -/
def finish (s : Scan) : List Inline :=
  emphasize (s.pieces ++ s.brackets.flatMap fun b => b.asText :: b.before).reverse

end Scan

/-- The inlines of the text of a paragraph, with the definitions of the document. -/
def inlines (definitions : List Definition) (source : String) : List Inline :=
  (Scan.run definitions {} '\n' source.toList).finish

end Jaxrs.Markdown
