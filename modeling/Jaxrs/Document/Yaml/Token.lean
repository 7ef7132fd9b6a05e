import Jaxrs.Document.Node

/-!
Tokens of YAML, and the characters and positions that they are read from. Line ends are single
line feeds here; only the two separators of Unicode end a line besides.
-/

set_option autoImplicit false

namespace Jaxrs.Yaml

inductive Token where
  | documentStart
  | documentEnd
  | blockSequence
  | blockMapping
  | blockEnd
  | flowSequence
  | flowSequenceEnd
  | flowMapping
  | flowMappingEnd
  | blockEntry
  | flowEntry
  | key
  | value
  | scalar (n : Node)
  deriving Repr

def isBlank (c : Char) : Bool :=
  c == ' ' || c == '\t'

def isBreak (c : Char) : Bool :=
  c == '\n' || c == '\u2028' || c == '\u2029'

def isSpace (c : Char) : Bool :=
  isBlank c || isBreak c

/-- White space or nothing at all. -/
def startsBlank : List Char → Bool
  | [] => true
  | c :: _ => isSpace c

/-- Characters that a document may hold. -/
def isAllowed (c : Char) : Bool :=
  let n := c.toNat
  n == 0x09 || n == 0x0A || n == 0x0D || (0x20 ≤ n && n ≤ 0x7E) || n == 0x85 ||
    (0xA0 ≤ n && n != 0xFEFF && n != 0xFFFE && n != 0xFFFF)

/-- Every kind of line end as a line feed. -/
def normalizeBreaks : List Char → List Char
  | '\r' :: '\n' :: rest => '\n' :: normalizeBreaks rest
  | '\r' :: rest => '\n' :: normalizeBreaks rest
  | '\u0085' :: rest => '\n' :: normalizeBreaks rest
  | c :: rest => c :: normalizeBreaks rest
  | [] => []

structure Position where
  offset : Nat := 0
  line : Nat := 0
  column : Nat := 0
  deriving DecidableEq, Repr

def Position.after (p : Position) (c : Char) : Position :=
  if isBreak c then ⟨p.offset + 1, p.line + 1, 0⟩ else ⟨p.offset + 1, p.line, p.column + 1⟩

/-- A place in a text, with what follows it. -/
structure Cursor where
  position : Position
  rest : List Char
  deriving Repr

namespace Cursor

def skip (cursor : Cursor) (n : Nat) : Cursor :=
  ⟨(cursor.rest.take n).foldl Position.after cursor.position, cursor.rest.drop n⟩

def skipWhile (p : Char → Bool) (cursor : Cursor) : Cursor :=
  ⟨(cursor.rest.takeWhile p).foldl Position.after cursor.position, cursor.rest.dropWhile p⟩

/-- Three dashes or dots at the start of a line, and then nothing more of a word. -/
def atIndicator (cursor : Cursor) : Bool :=
  cursor.position.column == 0 &&
    (match cursor.rest with
     | '-' :: '-' :: '-' :: rest => startsBlank rest
     | '.' :: '.' :: '.' :: rest => startsBlank rest
     | _ => false)

end Cursor

end Jaxrs.Yaml
