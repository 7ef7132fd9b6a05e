import Jaxrs.Markdown.Block
import Jaxrs.Markdown.Entity
import Jaxrs.Markdown.Line
import Jaxrs.Markdown.RawHtml

/-!
What the start of a line can mean for the blocks of a document: thematic breaks, headings, fences
of code, and the markers of quotes and list items. Four columns of blanks keep any of them from
being one.
-/

set_option autoImplicit false

namespace Jaxrs.Markdown

def isRule (s : List Char) : Bool :=
  match s.filter (!isSpaceOrTab ·) with
  | c :: more => (c == '*' || c == '-' || c == '_') && s.head? == some c && 2 ≤ more.length &&
      more.all (· == c)
  | [] => false

/-- A heading without the marks that close it. -/
def headingText (s : List Char) : List Char :=
  let text := trimLineEnd (s.dropWhile isLineBlank)
  let unclosed := (text.reverse.dropWhile (· == '#')).reverse
  match unclosed.getLast? with
  | none => []
  | some c => if isSpaceOrTab c then trimLineEnd unclosed else text

/-- The level and the text of a heading in a line of its own. -/
def heading? (s : List Char) : Option (Nat × List Char) :=
  let level := (s.takeWhile (· == '#')).length
  let rest := s.drop level
  if 1 ≤ level && level ≤ 6 && rest.head?.all isAsciiBlank then some (level, headingText rest)
  else none

/-- The level that a line gives to the heading above it. -/
def underline? (s : List Char) : Option Nat :=
  match s with
  | c :: _ =>
    if (c == '=' || c == '-') && (s.dropWhile (· == c)).all isLineBlank then
      some (if c == '=' then 1 else 2)
    else none
  | [] => none

/-- The line that starts a block of code. -/
structure Fence where
  mark : Char
  length : Nat
  indent : Nat
  info : String
  deriving Repr

def fence? (indent : Nat) (s : List Char) : Option Fence :=
  match s with
  | c :: _ =>
    let length := (s.takeWhile (· == c)).length
    let info := s.drop length
    if (c == '\x60' || c == '~') && 3 ≤ length && !(c == '\x60' && info.contains c) then
      some ⟨c, length, indent, String.ofList (unescape (trimLineEnd (info.dropWhile isLineBlank)))⟩
    else none
  | [] => none

/-- Whether a line ends the code that the fence has started. -/
def Fence.isClosedBy (f : Fence) (s : List Char) : Bool :=
  f.length ≤ (s.takeWhile (· == f.mark)).length && (s.dropWhile (· == f.mark)).all isLineBlank

/-- The place after a quote marker, of which one blank may be a part. -/
def quoteMarker? (c : Cursor) : Option Cursor :=
  let start := c.skipIndent
  if c.indent < 4 && start.rest.head? == some '>' then some ((start.skip 1).skipBlanks 1) else none

/-- The start of a list item. -/
structure ItemMarker where
  kind : ListKind
  number : Nat
  /-- The columns that later lines of the item are indented by. -/
  width : Nat
  /-- Nothing follows in the line. -/
  isBare : Bool
  after : Cursor
  deriving Repr

/-- The kind of list, its number, and the characters that a marker takes. -/
def itemKind? (s : List Char) : Option (ListKind × Nat × Nat) :=
  match s with
  | [] => none
  | c :: _ =>
    if c == '-' || c == '+' || c == '*' then
      if isRule s then none else some (.bullet c, 0, 1)
    else
      let digits := s.takeWhile Char.isDigit
      match s[digits.length]? with
      | some delimiter =>
        if 1 ≤ digits.length && digits.length ≤ 9 && (delimiter == '.' || delimiter == ')') then
          some (.ordered delimiter, Text.decimalValue digits, digits.length + 1)
        else none
      | none => none

/-- Up to four columns of blanks after the marker belong to it; with more, only the first does. -/
def itemMarker? (c : Cursor) : Option ItemMarker :=
  let start := c.skipIndent
  match itemKind? start.rest with
  | none => none
  | some (kind, number, length) =>
    let after := start.skip length
    let blanks := after.indent
    let width := c.indent + length
    if 4 ≤ c.indent || !after.rest.head?.all isSpaceOrTab then none
    else if after.isBlank then some ⟨kind, number, width + 1, true, after⟩
    else
      let blanks := if blanks ≤ 4 then blanks else 1
      some ⟨kind, number, width + blanks, false, after.skipBlanks blanks⟩

/-- Whether a line that could go on with a paragraph starts another block instead. -/
def interrupts (isInContainer : Bool) (c : Cursor) : Bool :=
  let s := c.skipIndent.rest
  c.indent < 4 &&
    (isRule s || (heading? s).isSome || (fence? 0 s).isSome || (quoteMarker? c).isSome ||
      (match itemMarker? c with
        | some m => !isInContainer ||
            (!m.isBare && (match m.kind with
              | .bullet _ => true
              | .ordered _ => m.number == 1))
        | none => false) ||
      (match s with
        | '<' :: rest => (RawHtml.interrupting? rest).isSome
        | _ => false))

theorem length_skipIndent_le (c : Cursor) : c.skipIndent.rest.length ≤ c.rest.length :=
  c.length_skipBlanks_le _

theorem length_lt_of_quoteMarker? {c after : Cursor} (h : quoteMarker? c = some after) :
    after.rest.length < c.rest.length := by
  unfold quoteMarker? at h
  dsimp only at h
  split at h
  · rename_i hc
    have hstart := length_skipIndent_le c
    have hpos : 0 < c.skipIndent.rest.length := by
      cases hr : c.skipIndent.rest with
      | nil => simp [hr] at hc
      | cons _ _ => simp
    have hskip := (c.skipIndent.skip 1).length_skipBlanks_le 1
    have hdrop : (c.skipIndent.skip 1).rest.length = c.skipIndent.rest.length - 1 := by
      simp [Cursor.skip]
    cases h
    omega
  · cases h

theorem itemKind?_length_pos {s : List Char} {kind : ListKind} {number length : Nat}
    (h : itemKind? s = some (kind, number, length)) : 0 < length ∧ 0 < s.length := by
  unfold itemKind? at h
  split at h
  · cases h
  · split at h
    · split at h
      · cases h
      · simp only [Option.some.injEq, Prod.mk.injEq] at h
        simp [← h.2.2]
    · dsimp only at h
      split at h
      · split at h
        · simp only [Option.some.injEq, Prod.mk.injEq] at h
          simp [← h.2.2]
        · cases h
      · cases h

theorem length_lt_of_itemMarker? {c : Cursor} {m : ItemMarker} (h : itemMarker? c = some m) :
    m.after.rest.length < c.rest.length := by
  unfold itemMarker? at h
  dsimp only at h
  split at h
  · cases h
  · rename_i kind number length hkind
    have ⟨hpos, hs⟩ := itemKind?_length_pos hkind
    have hstart := length_skipIndent_le c
    have hdrop : (c.skipIndent.skip length).rest.length = c.skipIndent.rest.length - length := by
      simp [Cursor.skip]
    split at h
    · cases h
    · split at h
      · cases h
        dsimp only
        omega
      · cases h
        have := (c.skipIndent.skip length).length_skipBlanks_le
          (if (c.skipIndent.skip length).indent ≤ 4 then (c.skipIndent.skip length).indent else 1)
        dsimp only
        omega

end Jaxrs.Markdown
