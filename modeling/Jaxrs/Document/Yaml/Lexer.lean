import Jaxrs.Document.Yaml.Scalar

/-!
Cutting YAML into tokens. Indentation becomes tokens that open and close blocks. A key is only
known as one when the colon after it is found, so its place is remembered until then; a key stays
on one line and is at most 1024 characters long.
-/

set_option autoImplicit false

namespace Jaxrs.Yaml

/-- The place of a token that may turn out to be a key. -/
structure PossibleKey where
  tokenIndex : Nat
  position : Position
  /-- Nothing but a key can stand there. -/
  isRequired : Bool
  deriving Repr

structure Lexer where
  cursor : Cursor
  /-- The column of the current block, and of those around it. -/
  indent : Int := -1
  outerIndents : List Int := []
  /-- What may turn out to be a key, for every open bracket and the block around them. -/
  keys : List (Option PossibleKey) := [none]
  mayStartKey : Bool := true
  /-- Last token first. -/
  tokens : List Token := []

namespace Lexer

def inFlow (l : Lexer) : Bool :=
  l.keys.length > 1

def column (l : Lexer) : Nat :=
  l.cursor.position.column

def emit (l : Lexer) (t : Token) : Lexer :=
  { l with tokens := t :: l.tokens }

/-- Puts a token before the one with the given index. -/
def emitAt (l : Lexer) (index : Nat) (t : Token) : Lexer :=
  let later := l.tokens.length - index
  { l with tokens := l.tokens.take later ++ t :: l.tokens.drop later }

def skip (l : Lexer) (n : Nat) : Lexer :=
  { l with cursor := l.cursor.skip n }

/--
Blanks and comments up to the next token, and line ends, after which a key may start. Where a key
may start, a tab is no blank.
-/
def skipBlank (inFlow mayStartKey inComment : Bool) (p : Position) :
    List Char → Cursor × Bool
  | [] => (⟨p, []⟩, mayStartKey)
  | c :: rest =>
    if isBreak c then skipBlank inFlow (mayStartKey || !inFlow) false (p.after c) rest
    else if inComment || c == ' ' || (c == '\t' && (inFlow || !mayStartKey)) then
      skipBlank inFlow mayStartKey inComment (p.after c) rest
    else if c == '#' then skipBlank inFlow mayStartKey true (p.after c) rest
    else (⟨p, c :: rest⟩, mayStartKey)

def toNextToken (l : Lexer) : Lexer :=
  let (cursor, mayStartKey) :=
    skipBlank l.inFlow l.mayStartKey false l.cursor.position l.cursor.rest
  { l with cursor, mayStartKey }

/-- A possible key is given up at the end of its line. -/
def dropStaleKeys (l : Lexer) : Option Lexer := do
  let p := l.cursor.position
  let keys ← l.keys.mapM fun
    | none => some none
    | some key =>
      if key.position.line < p.line || key.position.offset + 1024 < p.offset then
        if key.isRequired then none else some none
      else some (some key)
  some { l with keys }

/-- What follows cannot belong to the last possible key. -/
def dropKey (l : Lexer) : Option Lexer :=
  match l.keys with
  | some key :: keys => if key.isRequired then none else some { l with keys := none :: keys }
  | _ => some l

/-- Remembers that the next token may be a key. -/
def saveKey (l : Lexer) : Option Lexer :=
  if l.mayStartKey then do
    let l ← l.dropKey
    let key : PossibleKey :=
      { tokenIndex := l.tokens.length
        position := l.cursor.position
        isRequired := !l.inFlow && l.indent == (l.column : Int) }
    some { l with keys := some key :: l.keys.drop 1 }
  else some l

/-- Opens a block if the column is further right than the current one. -/
def roll (l : Lexer) (column : Nat) (index : Nat) (t : Token) : Lexer :=
  if !l.inFlow && l.indent < (column : Int) then
    { l with indent := column, outerIndents := l.indent :: l.outerIndents }.emitAt index t
  else l

/-- The blocks that end at a column, as their number and those that stay open. -/
def blocksEnding (column indent : Int) : List Int → Nat × Int × List Int
  | [] => (0, indent, [])
  | outer :: rest =>
    if indent > column then
      let (n, i, r) := blocksEnding column outer rest
      (n + 1, i, r)
    else (0, indent, outer :: rest)

/-- Closes the blocks that are further right than a column. -/
def unroll (l : Lexer) (column : Int) : Lexer :=
  if l.inFlow then l
  else
    let (n, indent, outerIndents) := blocksEnding column l.indent l.outerIndents
    { l with indent, outerIndents, tokens := List.replicate n .blockEnd ++ l.tokens }

def finish (l : Lexer) : Option (List Token) := do
  let l ← (l.unroll (-1)).dropKey
  some l.tokens.reverse

/-- An indicator that ends whatever was open in the line before. -/
def document (l : Lexer) (t : Token) : Option Lexer := do
  let l ← (l.unroll (-1)).dropKey
  some ({ l with mayStartKey := false }.skip 3 |>.emit t)

def openFlow (l : Lexer) (t : Token) : Option Lexer := do
  let l ← l.saveKey
  some ({ l with keys := none :: l.keys, mayStartKey := true }.skip 1 |>.emit t)

def closeFlow (l : Lexer) (t : Token) : Option Lexer := do
  let l ← l.dropKey
  let keys := if l.inFlow then l.keys.drop 1 else l.keys
  some ({ l with keys, mayStartKey := false }.skip 1 |>.emit t)

def flowEntry (l : Lexer) : Option Lexer := do
  let l ← l.dropKey
  some ({ l with mayStartKey := true }.skip 1 |>.emit .flowEntry)

def blockEntry (l : Lexer) : Option Lexer := do
  if !l.inFlow && !l.mayStartKey then none
  let l ← (l.roll l.column l.tokens.length .blockSequence).dropKey
  some ({ l with mayStartKey := true }.skip 1 |>.emit .blockEntry)

def markedKey (l : Lexer) : Option Lexer := do
  if !l.inFlow && !l.mayStartKey then none
  let l ← (l.roll l.column l.tokens.length .blockMapping).dropKey
  some ({ l with mayStartKey := !l.inFlow }.skip 1 |>.emit .key)

/-- A colon makes the possible key before it one. -/
def value (l : Lexer) : Option Lexer :=
  match l.keys with
  | some key :: keys =>
    let l := (l.emitAt key.tokenIndex .key).roll key.position.column key.tokenIndex .blockMapping
    some ({ l with keys := none :: keys, mayStartKey := false }.skip 1 |>.emit .value)
  | _ =>
    if !l.inFlow && !l.mayStartKey then none
    else
      let l := l.roll l.column l.tokens.length .blockMapping
      some ({ l with mayStartKey := !l.inFlow }.skip 1 |>.emit .value)

def blockScalar (l : Lexer) (folds : Bool) : Option Lexer := do
  let l ← l.dropKey
  let s ← scanBlock folds l.indent (l.cursor.skip 1)
  some ({ l with cursor := s.after, mayStartKey := true }.emit (.scalar (.text s.text)))

def quotedScalar (l : Lexer) (isDouble : Bool) : Option Lexer := do
  let l ← l.saveKey
  let opened := l.cursor.skip 1
  let s ← if isDouble then scanDouble {} [] opened.position opened.rest
    else scanSingle {} [] opened.position opened.rest
  some ({ l with cursor := s.after, mayStartKey := false }.emit (.scalar (.text s.text)))

def plainScalar (l : Lexer) : Option Lexer := do
  let l ← l.saveKey
  let s ← scanPlain l.inFlow (l.indent + 1).toNat false {} [] l.cursor.position l.cursor.rest
  some ({ l with cursor := s.after, mayStartKey := s.isBroken }.emit (.scalar (.plain s.text)))

/-- Characters that a plain scalar cannot start with. -/
def indicators : List Char :=
  ['-', '?', ':', ',', '[', ']', '\x7b', '\x7d', '#', '&', '*', '!', '|', '>', '\'', '"', '%',
   '@', '\x60']

def startsPlain (inFlow : Bool) (c : Char) (rest : List Char) : Bool :=
  !(isSpace c || indicators.contains c) ||
    (c == '-' && !(rest.head?.any isBlank)) ||
    (!inFlow && (c == '?' || c == ':') && !startsBlank rest)

/-- The token that starts with a character. -/
def next (l : Lexer) (c : Char) (rest : List Char) : Option Lexer :=
  if l.cursor.atIndicator then
    l.document (if c == '-' then .documentStart else .documentEnd)
  else if c == '[' then l.openFlow .flowSequence
  else if c == '\x7b' then l.openFlow .flowMapping
  else if c == ']' then l.closeFlow .flowSequenceEnd
  else if c == '\x7d' then l.closeFlow .flowMappingEnd
  else if c == ',' then l.flowEntry
  else if c == '-' && startsBlank rest then l.blockEntry
  else if c == '?' && (l.inFlow || startsBlank rest) then l.markedKey
  else if c == ':' && (l.inFlow || startsBlank rest) then l.value
  else if c == '|' && !l.inFlow then l.blockScalar false
  else if c == '>' && !l.inFlow then l.blockScalar true
  else if c == '\'' then l.quotedScalar false
  else if c == '"' then l.quotedScalar true
  else if startsPlain l.inFlow c rest then l.plainScalar
  else none

/-- All tokens up to the end of the text. -/
def run (l : Lexer) : Option (List Token) := do
  let start ← l.toNextToken.dropStaleKeys
  let start := start.unroll start.column
  match start.cursor.rest with
  | [] => start.finish
  | c :: rest =>
    let l' ← start.next c rest
    if l'.cursor.rest.length < l.cursor.rest.length then run l' else none
termination_by l.cursor.rest.length

end Lexer

/-- A mark of the byte order may come first. -/
def tokens? (text : String) : Option (List Token) :=
  let chars := match text.toList with
    | '\ufeff' :: rest => rest
    | s => s
  if chars.all isAllowed then
    Lexer.run { cursor := ⟨{}, normalizeBreaks chars⟩ }
  else none

end Jaxrs.Yaml
