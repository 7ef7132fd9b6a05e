import Jaxrs.Document.Yaml.Token
import Jaxrs.Text.Digits

/-!
Scalars of YAML. A line break inside a plain or quoted scalar is folded: a single one becomes a
space, and of several the first is dropped. Block scalars keep their lines, or fold those that are
not indented further.
-/

set_option autoImplicit false

namespace Jaxrs.Yaml

open Text

/-- White space between two words of a scalar. -/
structure Gap where
  /-- Blanks, last first, as long as no line ended. -/
  blanks : List Char := []
  /-- The first line end, unless it was escaped. -/
  firstBreak : Option Char := none
  /-- Further line ends, last first. -/
  moreBreaks : List Char := []
  isBroken : Bool := false
  deriving Repr

namespace Gap

def add (g : Gap) (c : Char) : Gap :=
  if isBreak c then
    if g.isBroken then { g with moreBreaks := c :: g.moreBreaks }
    else { firstBreak := some c, isBroken := true }
  else if g.isBroken then g
  else { g with blanks := c :: g.blanks }

/-- What a gap stands for, last character first. -/
def folded (g : Gap) : List Char :=
  if g.isBroken then
    match g.firstBreak, g.moreBreaks with
    | some '\n', [] => [' ']
    | some '\n', breaks => breaks
    | some c, breaks => breaks ++ [c]
    | none, breaks => breaks
  else g.blanks

end Gap

structure Scanned where
  text : String
  after : Cursor
  /-- The scalar is followed by a line end that belongs to the white space after it. -/
  isBroken : Bool := false

def opensFlow (c : Char) : Bool :=
  [',', '[', ']', '\x7b', '\x7d'].contains c

/-- The end of a plain scalar, or none if the scalar is not well-formed there. -/
def plainEnds? (inFlow : Bool) (c : Char) (rest : List Char) : Option Bool :=
  if c == ':' then
    if inFlow && (rest.head?.any fun d => d == '?' || opensFlow d) then none
    else some (startsBlank rest)
  else some (inFlow && opensFlow c)

/--
A plain scalar, where `taken` holds its characters so far, last first. Outside of brackets its
further lines are indented by at least `indent`, and without tabs up to there.
-/
def scanPlain (inFlow : Bool) (indent : Nat) (atWord : Bool) (gap : Gap) (taken : List Char)
    (p : Position) : List Char → Option Scanned
  | [] => some ⟨String.ofList taken.reverse, ⟨p, []⟩, gap.isBroken⟩
  | c :: rest =>
    let here : Scanned := ⟨String.ofList taken.reverse, ⟨p, c :: rest⟩, gap.isBroken⟩
    if isSpace c then
      if c == '\t' && gap.isBroken && p.column < indent then none
      else scanPlain inFlow indent true (gap.add c) taken (p.after c) rest
    else if atWord && ((!inFlow && p.column < indent) || here.after.atIndicator || c == '#') then
      some here
    else
      match plainEnds? inFlow c rest with
      | none => none
      | some true => some here
      | some false =>
        scanPlain inFlow indent false {} (c :: gap.folded ++ taken) (p.after c) rest

/-- A scalar after its opening quote; two quotes stand for one. -/
def scanSingle (gap : Gap) (taken : List Char) (p : Position) : List Char → Option Scanned
  | [] => none
  | c :: rest =>
    if isSpace c then scanSingle (gap.add c) taken (p.after c) rest
    else if (⟨p, c :: rest⟩ : Cursor).atIndicator then none
    else if c == '\'' then
      match rest with
      | '\'' :: rest =>
        scanSingle {} ('\'' :: gap.folded ++ taken) ((p.after c).after '\'') rest
      | rest =>
        some { text := String.ofList (gap.folded ++ taken).reverse, after := ⟨p.after c, rest⟩ }
    else scanSingle {} (c :: gap.folded ++ taken) (p.after c) rest

/-- What a single character stands for after a backslash. -/
def escape? : Char → Option Char
  | '0' => some '\x00'
  | 'a' => some '\x07'
  | 'b' => some '\x08'
  | 't' => some '\t'
  | '\t' => some '\t'
  | 'n' => some '\n'
  | 'v' => some '\x0b'
  | 'f' => some '\x0c'
  | 'r' => some '\r'
  | 'e' => some '\x1b'
  | ' ' => some ' '
  | '"' => some '"'
  | '/' => some '/'
  | '\\' => some '\\'
  | 'N' => some '\u0085'
  | '_' => some '\u00a0'
  | 'L' => some '\u2028'
  | 'P' => some '\u2029'
  | _ => none

/-- The character with a hexadecimal code. -/
def hexChar? (digits : List Char) : Option Char := do
  let n ← radixValue? 16 digits
  if n.isValidChar then some (Char.ofNat n) else none

/-- A scalar after its opening quote, with escapes. -/
def scanDouble (gap : Gap) (taken : List Char) (p : Position) : List Char → Option Scanned
  | [] => none
  | '\\' :: 'x' :: a :: b :: rest =>
    match hexChar? [a, b] with
    | none => none
    | some c => scanDouble {} (c :: gap.folded ++ taken)
        { p with offset := p.offset + 4, column := p.column + 4 } rest
  | '\\' :: 'u' :: a :: b :: c :: d :: rest =>
    match hexChar? [a, b, c, d] with
    | none => none
    | some c => scanDouble {} (c :: gap.folded ++ taken)
        { p with offset := p.offset + 6, column := p.column + 6 } rest
  | '\\' :: 'U' :: a :: b :: c :: d :: e :: f :: g :: h :: rest =>
    match hexChar? [a, b, c, d, e, f, g, h] with
    | none => none
    | some c => scanDouble {} (c :: gap.folded ++ taken)
        { p with offset := p.offset + 10, column := p.column + 10 } rest
  | '\\' :: c :: rest =>
    if isBreak c then
      scanDouble { isBroken := true } (gap.folded ++ taken) ((p.after '\\').after c) rest
    else match escape? c with
      | none => none
      | some e => scanDouble {} (e :: gap.folded ++ taken) ((p.after '\\').after c) rest
  | c :: rest =>
    if isSpace c then scanDouble (gap.add c) taken (p.after c) rest
    else if c == '\\' || (⟨p, c :: rest⟩ : Cursor).atIndicator then none
    else if c == '"' then
      some { text := String.ofList (gap.folded ++ taken).reverse, after := ⟨p.after c, rest⟩ }
    else scanDouble {} (c :: gap.folded ++ taken) (p.after c) rest

/-- What becomes of the line ends after a block scalar. -/
inductive Chomping where
  | clip
  | strip
  | keep
  deriving DecidableEq, Repr

def chomping? : Char → Option Chomping
  | '-' => some .strip
  | '+' => some .keep
  | _ => none

/-- The indentation that a header asks for; it cannot be zero. -/
def increment? (c : Char) : Option (Option Nat) :=
  if c == '0' then none else some (if c.isDigit then some (digitValue c) else none)

/-- A chomping mark and an indentation, in either order. -/
def blockHeader? (s : List Char) : Option (Chomping × Option Nat × List Char) :=
  match s with
  | [] => some (.clip, none, [])
  | c :: rest =>
    match chomping? c with
    | some mark =>
      match rest with
      | [] => some (mark, none, [])
      | d :: rest => (increment? d).map fun n =>
          (mark, n, if n.isSome then rest else d :: rest)
    | none =>
      match increment? c with
      | none => none
      | some none => some (.clip, none, c :: rest)
      | some (some n) =>
        match rest.head?.bind chomping? with
        | some mark => some (mark, some n, rest.drop 1)
        | none => some (.clip, some n, rest)

structure Breaks where
  deepest : Nat
  breaks : List Char
  after : Cursor

/--
Indentation and empty lines up to the next line that is not empty. Without a limit the
indentation is as deep as it goes, and a tab is no part of it.
-/
def scanBreaks (limit : Option Nat) (deepest : Nat) (breaks : List Char) (p : Position) :
    List Char → Option Breaks
  | [] => some ⟨max deepest p.column, breaks.reverse, ⟨p, []⟩⟩
  | c :: rest =>
    let inside := limit.all (p.column < ·)
    if c == ' ' && inside then scanBreaks limit deepest breaks (p.after c) rest
    else if c == '\t' && inside then none
    else if isBreak c then
      scanBreaks limit (max deepest p.column) (c :: breaks) (p.after c) rest
    else some ⟨max deepest p.column, breaks.reverse, ⟨p, c :: rest⟩⟩

/-- The lines of a block scalar so far. -/
structure Block where
  text : List Char := []
  /-- The line end after the last line. -/
  lastBreak : List Char := []
  moreBreaks : List Char := []
  /-- The last line started with a blank. -/
  wasIndented : Bool := false

/-- What comes between two lines. -/
def Block.between (b : Block) (folds isIndented : Bool) : List Char :=
  if folds && b.lastBreak == ['\n'] && !b.wasIndented && !isIndented then
    if b.moreBreaks.isEmpty then [' '] else b.moreBreaks
  else b.lastBreak ++ b.moreBreaks

def scanLines (folds : Bool) (indent : Nat) (b : Block) (cursor : Cursor) :
    Option (Block × Cursor) :=
  match cursor.rest with
  | [] => some (b, cursor)
  | c :: _ =>
    if cursor.position.column != indent then some (b, cursor)
    else
      let line := cursor.rest.takeWhile (!isBreak ·)
      let atBreak := cursor.skipWhile (!isBreak ·)
      let next := atBreak.skip 1
      match scanBreaks (some indent) 0 [] next.position next.rest with
      | none => none
      | some found =>
        let b : Block :=
          { text := b.text ++ b.between folds (isBlank c) ++ line
            lastBreak := atBreak.rest.take 1
            moreBreaks := found.breaks
            wasIndented := isBlank c }
        if found.after.rest.length < cursor.rest.length then scanLines folds indent b found.after
        else some (b, found.after)
termination_by cursor.rest.length

/-- A block scalar after its indicator, inside a block indented by `indent`. -/
def scanBlock (folds : Bool) (outer : Int) (cursor : Cursor) : Option Scanned := do
  let (mark, increment, rest) ← blockHeader? cursor.rest
  let header := cursor.skip (cursor.rest.length - rest.length)
  let blank := header.skipWhile isBlank
  let line := if blank.rest.head? == some '#' then blank.skipWhile (!isBreak ·) else blank
  if !(line.rest.head?.all isBreak) then none
  let first := line.skip 1
  let given := increment.map fun n => (max outer 0).toNat + n
  let found ← scanBreaks given 0 [] first.position first.rest
  let indent := given.getD (max found.deepest (max (outer + 1) 1).toNat)
  let (b, after) ← scanLines folds indent { moreBreaks := found.breaks } found.after
  let tail := match mark with
    | .strip => []
    | .clip => b.lastBreak
    | .keep => b.lastBreak ++ b.moreBreaks
  some { text := String.ofList (b.text ++ tail), after }

end Jaxrs.Yaml
