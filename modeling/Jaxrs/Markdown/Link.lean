import Jaxrs.Markdown.CaseFold
import Jaxrs.Markdown.Entity
import Jaxrs.Markdown.Line

/-!
Targets of links, and the definitions that give labels their targets. Of two definitions of a
label the first counts, wherever in the text they stand. Labels are compared without regard to case
and to the kind and number of their blanks.
-/

set_option autoImplicit false

namespace Jaxrs.Markdown

open Text

structure Target where
  destination : String
  title : String
  deriving Repr, DecidableEq

structure Definition where
  /-- In the form in which labels are compared. -/
  label : List Char
  target : Target
  deriving Repr

/-- Puts characters before the first part. -/
def prepend (s : List Char) (parts : List Char × List Char) : List Char × List Char :=
  (s ++ parts.1, parts.2)

/-- Blanks with at most one line end. -/
def dropSeparator (s : List Char) : List Char :=
  match s.dropWhile isLineBlank with
  | '\n' :: rest => rest.dropWhile isLineBlank
  | rest => rest

/-- A destination up to `>`, and what follows. -/
def pointedDestination? : List Char → Option (List Char × List Char)
  | [] => none
  | '\\' :: c :: rest =>
    if isAsciiPunctuation c then (pointedDestination? rest).map (prepend ['\\', c])
    else (pointedDestination? (c :: rest)).map (prepend ['\\'])
  | c :: rest =>
    if c == '>' then some ([], rest)
    else if c == '<' || c == '\n' then none
    else (pointedDestination? rest).map (prepend [c])

/-- A destination in which `depth` brackets are open, and what follows. -/
def bareDestination? (maxDepth depth : Nat) : List Char → Option (List Char × List Char)
  | [] => if depth = 0 then some ([], []) else none
  | '\\' :: c :: rest =>
    if isAsciiPunctuation c then (bareDestination? maxDepth depth rest).map (prepend ['\\', c])
    else (bareDestination? maxDepth depth (c :: rest)).map (prepend ['\\'])
  | c :: rest =>
    if c.toNat ≤ 0x20 || (c == ')' && depth == 0) then
      if depth = 0 then some ([], c :: rest) else none
    else if c == '(' && depth > maxDepth then none
    else
      let depth := if c == '(' then depth + 1 else if c == ')' then depth - 1 else depth
      (bareDestination? maxDepth depth rest).map (prepend [c])

def destination? (maxDepth : Nat) : List Char → Option (List Char × List Char)
  | '<' :: rest => pointedDestination? rest
  | s => bareDestination? maxDepth 0 s

def titleUntil? (opening closing : Char) : List Char → Option (List Char × List Char)
  | [] => none
  | '\\' :: c :: rest =>
    if isAsciiPunctuation c then (titleUntil? opening closing rest).map (prepend ['\\', c])
    else (titleUntil? opening closing (c :: rest)).map (prepend ['\\'])
  | c :: rest =>
    if c == closing then some ([], rest)
    else if c == opening then none
    else (titleUntil? opening closing rest).map (prepend [c])

/-- A title in quotes or brackets, without them, and what follows. -/
def title? : List Char → Option (List Char × List Char)
  | c :: rest =>
    if c == '"' || c == '\'' then titleUntil? c c rest
    else if c == '(' then titleUntil? '(' ')' rest
    else none
  | [] => none

/-- Blanks at the start of a line do not count. -/
def dropIndents (atLineStart : Bool) : List Char → List Char
  | [] => []
  | c :: rest =>
    if atLineStart && isLineBlank c then dropIndents true rest
    else c :: dropIndents (c == '\n') rest

def Target.of (destination title : List Char) : Target where
  destination := String.ofList (unescape destination)
  title := String.ofList (unescape (dropIndents false title))

/-- The target in the round brackets after the text of a link, and what follows them. -/
def inlineTarget? : List Char → Option (Target × List Char)
  | '(' :: s => do
    let (destination, rest) ← destination? 5 (dropSeparator s)
    let rest := dropSeparator rest
    let (title, rest) := match title? rest with
      | some (title, rest) => (title, dropSeparator rest)
      | none => ([], rest)
    match rest with
    | ')' :: rest => some (Target.of destination title, rest)
    | _ => none
  | _ => none

/-- The characters up to the closing bracket, and what follows it. -/
def bracketed? : List Char → Option (List Char × List Char)
  | [] => none
  | '\\' :: c :: rest => (bracketed? rest).map (prepend ['\\', c])
  | c :: rest =>
    if c == ']' then some ([], rest)
    else if c == '[' then none
    else (bracketed? rest).map (prepend [c])

/-- A label, which is not blank and not too long, and what follows its closing bracket. -/
def label? (s : List Char) : Option (List Char × List Char) := do
  let (label, rest) ← bracketed? s
  if label.length < 1000 && !label.all isAsciiBlank then some (label, rest) else none

def normalizeLabel (s : List Char) : List Char :=
  foldCase (((cut isAsciiBlank s).filter (!·.isEmpty)).intersperse [' ']).flatten

/-- What follows a line of which only blanks are left. -/
def nextLine? (s : List Char) : Option (List Char) :=
  match s.dropWhile isLineBlank with
  | [] => some []
  | '\n' :: rest => some rest
  | _ => none

/-- A title at the end of a definition; it may stand in a line of its own. -/
def definitionTitle? (s : List Char) : Option (List Char × List Char) := do
  let next := dropSeparator s
  guard (next.length < s.length)
  let (title, rest) ← title? next
  some (title, ← nextLine? rest)

/-- A definition at the start of a text, and the lines after it. -/
def definition? (s : List Char) : Option (Definition × List Char) :=
  match s.dropWhile isLineBlank with
  | '[' :: s => do
    let (label, rest) ← label? s
    match rest with
    | ':' :: rest =>
      let start := dropSeparator rest
      let (destination, rest) ← destination? 1 start
      guard (rest.length < start.length)
      let (title, rest) ← definitionTitle? rest <|> (nextLine? rest).map ([], ·)
      some (⟨normalizeLabel label, Target.of destination title⟩, rest)
    | _ => none
  | _ => none

/-- The definitions at the start of a text, and the lines after them. -/
def takeDefinitions (s : List Char) : List Definition × List Char :=
  match definition? s with
  | none => ([], s)
  | some (d, rest) =>
    if rest.length < s.length then
      let (definitions, rest) := takeDefinitions rest
      (d :: definitions, rest)
    else ([d], rest)
termination_by s.length

def findTarget? (definitions : List Definition) (label : List Char) : Option Target :=
  (definitions.find? (·.label == normalizeLabel label)).map (·.target)

/-- The target that the text of a link names if it is a label. -/
def ownTarget? (definitions : List Definition) (text : List Char) : Option Target :=
  match label? (text ++ [']']) with
  | some (label, []) => findTarget? definitions label
  | _ => none

/--
The target of a link with the text `text`, and what follows it; `after` follows the bracket that
closes the text. A label after the text is the only one that counts, whether or not it is defined.
-/
def linkTarget? (definitions : List Definition) (text after : List Char) :
    Option (Target × List Char) :=
  inlineTarget? after <|>
    match after with
    | '[' :: ']' :: rest => (ownTarget? definitions text).map (·, rest)
    | '[' :: s =>
      match label? s with
      | some (label, rest) => (findTarget? definitions label).map (·, rest)
      | none => (ownTarget? definitions text).map (·, after)
    | _ => (ownTarget? definitions text).map (·, after)

end Jaxrs.Markdown
