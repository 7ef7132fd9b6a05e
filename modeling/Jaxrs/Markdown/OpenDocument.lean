import Jaxrs.Markdown.LineStart
import Jaxrs.Markdown.Link

/-!
A document of which some lines are read. Quotes and lists that later lines may go on with are
open, and so is the last block of text in the innermost of them. A line first goes down the open
containers that it continues; what it does not continue is closed, unless the line only goes on
with a paragraph.
-/

set_option autoImplicit false

namespace Jaxrs.Markdown

structure OpenItem where
  /-- The columns that lines of the item are indented by. -/
  width : Nat
  /-- Only the marker has been read. -/
  isBare : Bool
  /-- Last block first. -/
  closed : List Block

structure OpenList where
  kind : ListKind
  start : Nat
  isLoose : Bool
  /-- Last item first. -/
  closed : List (List Block)
  item : Option OpenItem

inductive Container where
  | quote (closed : List Block)
  | list (l : OpenList)

/-- The open block of text; its lines have the last first. -/
inductive Leaf where
  | none
  | paragraph (lines : List (List Char))
  | fenced (fence : Fence) (lines : List (List Char))
  /-- Blank lines only count if code follows. -/
  | indented (lines blankLines : List (List Char))
  | html (stop : RawHtml.BlockEnd) (lines : List (List Char))

structure OpenDocument where
  /-- Innermost first. -/
  containers : List Container := []
  leaf : Leaf := .none
  /-- Blocks outside any container, last first. -/
  closed : List Block := []
  definitions : List Definition := []
  /-- A blank line has been read since the last block was opened. -/
  isAfterBlank : Bool := false

def OpenItem.blocks (item : OpenItem) : List Block :=
  item.closed.reverse

def OpenList.closeItem (l : OpenList) : OpenList :=
  match l.item with
  | some item => { l with closed := item.blocks :: l.closed, item := none }
  | none => l

def OpenList.close (l : OpenList) : Block :=
  .list l.kind l.start (!l.isLoose) l.closeItem.closed.reverse

def Container.close : Container → Block
  | quote closed => .quote closed.reverse
  | list l => l.close

def Container.add (b : Block) : Container → Container
  | quote closed => quote (b :: closed)
  | list l => list { l with item := l.item.map fun i => { i with closed := b :: i.closed } }

/-- The place where the contents go on, if a line continues the container. -/
def Container.continue? (c : Cursor) : Container → Option Cursor
  | quote _ => quoteMarker? c
  | list l =>
    match l.item with
    | none => some c
    | some item =>
      if c.isBlank || item.width ≤ c.indent then some (c.skipBlanks item.width) else none

/-- How many containers, outermost first, a line continues, and what is left of it. -/
def continued : List Container → Cursor → Nat × Cursor
  | [], c => (0, c)
  | container :: inner, c =>
    match container.continue? c with
    | none => (0, c)
    | some c =>
      let (n, c) := continued inner c
      (n + 1, c)

/-- The text of a paragraph without the definitions at its start. -/
def paragraphParts (lines : List (List Char)) : List Definition × List Char :=
  let (definitions, text) := takeDefinitions ((lines.reverse.intersperse ['\n']).flatten)
  (definitions, trimLineEnd (text.dropWhile isLineBlank))

def codeBlock (info : String) (lines : List (List Char)) : Block :=
  .code info (String.ofList lines.reverse.flatten)

namespace OpenDocument

def add (d : OpenDocument) (b : Block) : OpenDocument :=
  match d.containers with
  | [] => { d with closed := b :: d.closed }
  | c :: outer => { d with containers := c.add b :: outer }

def define (d : OpenDocument) (definitions : List Definition) : OpenDocument :=
  { d with definitions := d.definitions ++ definitions }

def closeLeaf (d : OpenDocument) : OpenDocument :=
  let rest := { d with leaf := .none }
  match d.leaf with
  | .none => rest
  | .paragraph lines =>
    let (definitions, text) := paragraphParts lines
    let rest := rest.define definitions
    if text.isEmpty then rest else rest.add (.paragraph (String.ofList text))
  | .fenced fence lines => rest.add (codeBlock fence.info lines)
  | .indented lines _ => rest.add (codeBlock "" lines)
  | .html _ lines => rest.add (.html (String.ofList lines.reverse.flatten))

def closeContainer (d : OpenDocument) : OpenDocument :=
  match d.containers with
  | [] => d
  | c :: outer => { d with containers := outer }.add c.close

def closeContainers (d : OpenDocument) : Nat → OpenDocument
  | 0 => d
  | n + 1 => closeContainers d.closeContainer n

/-- Closes a quote, or the item of a list, which another item may follow. -/
def leaveContainer (d : OpenDocument) : OpenDocument :=
  match d.containers with
  | .list l :: outer => { d with containers := .list l.closeItem :: outer }
  | _ => d.closeContainer

/-- Closes the innermost `n` containers, of which the outermost is left. -/
def leave (d : OpenDocument) : Nat → OpenDocument
  | 0 => d
  | n + 1 => (d.closeContainers n).leaveContainer

def changeList (d : OpenDocument) (f : OpenList → OpenList) : OpenDocument :=
  match d.containers with
  | .list l :: outer => { d with containers := .list (f l) :: outer }
  | _ => d

/-- A list whose items or their blocks have a blank line between them is loose. -/
def loosen (d : OpenDocument) : OpenDocument :=
  { d.changeList (fun l => { l with isLoose := l.isLoose || d.isAfterBlank }) with
    isAfterBlank := false }

/-- Makes room for a block: a list without an open item is over. -/
def startBlock (d : OpenDocument) : OpenDocument :=
  let d := match d.containers with
    | .list l :: _ => if l.item.isNone then d.closeContainer else d
    | _ => d
  d.loosen.changeList fun l => { l with item := l.item.map ({ · with isBare := false }) }

def startItem (d : OpenDocument) (m : ItemMarker) : OpenDocument :=
  let item : OpenItem := ⟨m.width, m.isBare, []⟩
  let goesOn := match d.containers with
    | .list l :: _ => l.item.isNone && l.kind == m.kind
    | _ => false
  if goesOn then d.loosen.changeList ({ · with item := some item })
  else
    let d := d.startBlock
    { d with containers := .list ⟨m.kind, m.number, false, [], some item⟩ :: d.containers }

/-- Opens the containers that a line starts; nothing is left of it if it ends in a marker. -/
def openContainers (d : OpenDocument) (c : Cursor) : OpenDocument × Option Cursor :=
  match _hitem : itemMarker? c with
  | some m =>
    let d := d.startItem m
    if m.isBare then (d, none) else openContainers d m.after
  | none =>
    match _hquote : quoteMarker? c with
    | some after =>
      let d := d.startBlock
      openContainers { d with containers := .quote [] :: d.containers } after
    | none => (d, some c)
termination_by c.rest.length
decreasing_by
  · exact length_lt_of_itemMarker? _hitem
  · exact length_lt_of_quoteMarker? _hquote

/-- An item that starts with two blank lines is empty. -/
def blankLine (d : OpenDocument) : OpenDocument :=
  match d.containers with
  | .quote _ :: _ => d
  | .list l :: outer =>
    let l := if l.item.any (·.isBare) then l.closeItem else l
    { d with containers := .list l :: outer, isAfterBlank := true }
  | [] => { d with isAfterBlank := true }

/-- A line of an HTML block, which may be its last. -/
def addHtmlLine (d : OpenDocument) (stop : RawHtml.BlockEnd) (lines : List (List Char))
    (line : List Char) : OpenDocument :=
  let d := { d with leaf := .html stop (line :: lines) }
  match stop with
  | .after text => if (RawHtml.past? text line).isSome then d.closeLeaf else d
  | .beforeBlank => d

/-- Starts the block of text that a line holds after the markers of containers. -/
def startLeaf (d : OpenDocument) (c : Cursor) (ending : List Char) : OpenDocument :=
  let d := d.startBlock
  let s := c.skipIndent.rest
  if 4 ≤ c.indent then { d with leaf := .indented [(c.skipBlanks 4).content ++ ending] [] }
  else
    let html := match s with
      | '<' :: rest => RawHtml.block? rest
      | _ => none
    match html with
    | some stop => d.addHtmlLine stop [] (c.content ++ ending)
    | none =>
      if isRule s then d.add .rule
      else match heading? s with
        | some (level, text) => d.add (.heading level (String.ofList text))
        | none =>
          match fence? c.indent s with
          | some fence => { d with leaf := .fenced fence [] }
          | none => { d with leaf := .paragraph [s] }

/--
Whether the next line may go on with a paragraph. If all before it are definitions, only a title
can.
-/
def mayGoOn (lines : List (List Char)) (c : Cursor) : Bool :=
  !(paragraphParts lines).2.isEmpty ||
    (c.rest.dropWhile isLineBlank).head?.any fun c => c == '"' || c == '\'' || c == '('

/-- A line that goes on with an open paragraph or ends it as a heading. -/
def extendParagraph? (d : OpenDocument) (lines : List (List Char)) (isInContainer : Bool)
    (c : Cursor) : Option OpenDocument :=
  if c.isBlank || !mayGoOn lines c then none
  else
    let level := if isInContainer && c.indent < 4 then underline? c.skipIndent.rest else none
    match level with
    | some level =>
      let (definitions, text) := paragraphParts lines
      some (({ d with leaf := .none }.define definitions).add
        (.heading level (String.ofList text)))
    | none =>
      if interrupts isInContainer c then none
      else some { d with leaf := .paragraph (c.rest :: lines) }

/-- A line of the open block of text; none if the line does not belong to it. -/
def extendLeaf? (d : OpenDocument) (isInContainer : Bool) (c : Cursor) (ending : List Char) :
    Option OpenDocument :=
  match d.leaf, isInContainer with
  | .paragraph lines, _ => d.extendParagraph? lines isInContainer c
  | .fenced fence lines, true =>
    if c.indent < 4 && fence.isClosedBy c.skipIndent.rest then some d.closeLeaf
    else
      let text := (c.skipBlanks (min fence.indent c.indent)).content ++ ending
      some { d with leaf := .fenced fence (text :: lines) }
  | .indented lines blankLines, true =>
    let text := (c.skipBlanks 4).content ++ ending
    if c.isBlank then
      some { d with leaf := .indented lines (text :: blankLines), isAfterBlank := true }
    else if 4 ≤ c.indent then
      some { d with leaf := .indented (text :: blankLines ++ lines) [], isAfterBlank := false }
    else none
  | .html stop lines, true =>
    match stop, c.isBlank with
    | .beforeBlank, true => none
    | _, _ => some (d.addHtmlLine stop lines (c.content ++ ending))
  | _, _ => none

def addLine (d : OpenDocument) (line : Line) : OpenDocument :=
  let (n, c) := continued d.containers.reverse (Cursor.start line)
  let left := d.containers.length - n
  match d.extendLeaf? (left == 0) c line.ending.toList with
  | some d => d
  | none =>
    match (d.closeLeaf.leave left).openContainers c with
    | (d, none) => d
    | (d, some c) => if c.isBlank then d.blankLine else d.startLeaf c line.ending.toList

def finish (d : OpenDocument) : List Block × List Definition :=
  let d := d.closeLeaf
  let d := d.closeContainers d.containers.length
  (d.closed.reverse, d.definitions)

end OpenDocument

/-- The blocks of a text and the definitions in it. -/
def blocks (text : String) : List Block × List Definition :=
  ((lines text).foldl OpenDocument.addLine {}).finish

end Jaxrs.Markdown
