import Jaxrs.Text.Digits

/-!
Lines of a Markdown text and places in them. A tab stands for the blanks up to the next column
that is a multiple of four, and a container may use up only some of these.
-/

set_option autoImplicit false

namespace Jaxrs.Markdown

/-- A line and the character that ended it, which is a newline for a carriage return with one. -/
structure Line where
  chars : List Char
  ending : Option Char
  deriving Repr

/-- The lines of `text`, after the characters `seen` of the first, last first. -/
def linesFrom (seen : List Char) : List Char → List Line
  | [] => if seen.isEmpty then [] else [⟨seen.reverse, none⟩]
  | '\r' :: '\n' :: rest => ⟨seen.reverse, some '\n'⟩ :: linesFrom [] rest
  | c :: rest =>
    if c == '\n' || c == '\r' then ⟨seen.reverse, some c⟩ :: linesFrom [] rest
    else linesFrom (c :: seen) rest

def lines (text : String) : List Line :=
  linesFrom [] text.toList

def isSpaceOrTab (c : Char) : Bool :=
  c == ' ' || c == '\t'

/-- The blanks within a line. -/
def isLineBlank (c : Char) : Bool :=
  isSpaceOrTab c || c == '\x0b' || c == '\x0c'

def isAsciiBlank (c : Char) : Bool :=
  isLineBlank c || c == '\n' || c == '\r'

def trimLineEnd (s : List Char) : List Char :=
  (s.reverse.dropWhile isLineBlank).reverse

/-- A place in a line. -/
structure Cursor where
  column : Nat
  /-- Columns of a tab that is only partly used. -/
  pending : Nat
  rest : List Char
  deriving Repr

namespace Cursor

def start (line : Line) : Cursor :=
  ⟨0, 0, line.chars⟩

/-- A line ends in blanks. -/
def isBlank (c : Cursor) : Bool :=
  c.rest.all isLineBlank

/-- The columns of blanks in front of `rest`, of which the first is in column `column`. -/
def blankWidth (column : Nat) : List Char → Nat
  | ' ' :: rest => 1 + blankWidth (column + 1) rest
  | '\t' :: rest => 4 - column % 4 + blankWidth (column + (4 - column % 4)) rest
  | _ => 0

/-- The columns of blanks at the place. -/
def indent (c : Cursor) : Nat :=
  c.pending + blankWidth c.column c.rest

/-- Blanks of at most `width` columns. -/
def skipBlanksFrom (column : Nat) : Nat → List Char → Cursor
  | width + 1, ' ' :: rest => skipBlanksFrom (column + 1) width rest
  | width + 1, '\t' :: rest =>
    if 4 - column % 4 ≤ width + 1 then
      skipBlanksFrom (column + (4 - column % 4)) (width + 1 - (4 - column % 4)) rest
    else ⟨column + (4 - column % 4), 4 - column % 4 - (width + 1), rest⟩
  | _, rest => ⟨column, 0, rest⟩

def skipBlanks (c : Cursor) (width : Nat) : Cursor :=
  if width ≤ c.pending then { c with pending := c.pending - width }
  else skipBlanksFrom c.column (width - c.pending) c.rest

def skipIndent (c : Cursor) : Cursor :=
  c.skipBlanks c.indent

/-- Past `n` characters that are not tabs. -/
def skip (c : Cursor) (n : Nat) : Cursor :=
  ⟨c.column + n, 0, c.rest.drop n⟩

/-- What is left of the line, with the rest of a used tab as spaces. -/
def content (c : Cursor) : List Char :=
  List.replicate c.pending ' ' ++ c.rest

theorem length_skipBlanksFrom_le (column width : Nat) (s : List Char) :
    (skipBlanksFrom column width s).rest.length ≤ s.length := by
  fun_induction skipBlanksFrom column width s <;> simp_all only [List.length_cons] <;> omega

theorem length_skipBlanks_le (c : Cursor) (width : Nat) :
    (c.skipBlanks width).rest.length ≤ c.rest.length := by
  unfold skipBlanks
  split
  · simp
  · exact length_skipBlanksFrom_le ..

end Cursor

end Jaxrs.Markdown
