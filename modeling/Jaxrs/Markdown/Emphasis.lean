import Jaxrs.Markdown.Link
import Jaxrs.Text.Blank

/-!
Inlines, and how runs of `*` and `_` become emphasis. A run that may close emphasis is paired with
the nearest one before it that may open it. Runs between the two are text.
-/

set_option autoImplicit false

namespace Jaxrs.Markdown

open Text

inductive Inline where
  | text (s : String)
  | code (s : String)
  | html (s : String)
  | softBreak
  | hardBreak
  | emphasis (content : List Inline)
  | strong (content : List Inline)
  | link (target : Target) (content : List Inline)
  | image (target : Target) (content : List Inline)
  deriving Repr

structure Run where
  mark : Char
  length : Nat
  opens : Bool
  closes : Bool
  deriving Repr

namespace Run

/--
A run between `before` and `after`. It opens in front of a word and closes behind one, and `_` does
neither within a word.
-/
def between (mark : Char) (length : Nat) (before after : Char) : Run where
  mark
  length
  opens := !isBlank after &&
    (isBlank before || isPunctuation before || (mark == '*' && !isPunctuation after))
  closes := !isBlank before &&
    (isBlank after || isPunctuation after || (mark == '*' && !isPunctuation before))

/--
Where a run could both open and close, lengths whose sum is a multiple of three pair only if both
are.
-/
def pairs (opening closing : Run) : Bool :=
  opening.mark == closing.mark &&
    (!((opening.opens && opening.closes) || (closing.opens && closing.closes)) ||
      (opening.length + closing.length) % 3 != 0 || closing.length % 3 == 0)

end Run

/-- Text in which emphasis is not yet resolved. -/
inductive Piece where
  | inline (i : Inline)
  | run (r : Run)
  deriving Repr

/-- A run that may open emphasis, how many of its marks are left, and what follows, last first. -/
structure Opener where
  run : Run
  left : Nat
  inner : List Inline
  deriving Repr

def marks (mark : Char) (n : Nat) : Inline :=
  .text (String.ofList (List.replicate n mark))

/-- The opener and what follows it as text, last first. -/
def Opener.asText (o : Opener) : List Inline :=
  o.inner ++ [marks o.run.mark o.left]

/-- Openers with the innermost first, and what comes before them, last first. -/
structure Emphasis where
  openers : List Opener := []
  base : List Inline := []

namespace Emphasis

def add (e : Emphasis) (i : Inline) : Emphasis :=
  match e.openers with
  | [] => { e with base := i :: e.base }
  | o :: outer => { e with openers := { o with inner := i :: o.inner } :: outer }

/-- The nearest opener that pairs with a run, with all that follows it, and those around it. -/
def nearest? (closing : Run) (later : List Inline) : List Opener → Option (Opener × List Opener)
  | [] => none
  | o :: outer =>
    let o := { o with inner := later ++ o.inner }
    if o.run.pairs closing then some (o, outer) else nearest? closing o.asText outer

/-- Closes emphasis with up to `left` marks of a run, and how many marks remain. -/
def close (e : Emphasis) (closing : Run) (left : Nat) : Emphasis × Nat :=
  if left = 0 then (e, 0)
  else match nearest? closing [] e.openers with
    | none => (e, left)
    | some (o, outer) =>
      let isStrong := 2 ≤ left && 2 ≤ o.left
      let used := if isStrong then 2 else 1
      let content := o.inner.reverse
      let node := if isStrong then Inline.strong content else .emphasis content
      let e :=
        if o.left ≤ used then add { e with openers := outer } node
        else { e with openers := { o with left := o.left - used, inner := [node] } :: outer }
      close e closing (left - used)
termination_by left
decreasing_by split <;> omega

def step (e : Emphasis) : Piece → Emphasis
  | .inline i => e.add i
  | .run r =>
    let (e, left) := if r.closes then e.close r r.length else (e, r.length)
    if left = 0 then e
    else if r.opens then { e with openers := ⟨r, left, []⟩ :: e.openers }
    else e.add (marks r.mark left)

def finish (e : Emphasis) : List Inline :=
  (e.openers.flatMap Opener.asText ++ e.base).reverse

end Emphasis

def emphasize (pieces : List Piece) : List Inline :=
  (pieces.foldl Emphasis.step {}).finish

end Jaxrs.Markdown
