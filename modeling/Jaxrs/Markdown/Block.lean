/-!
Blocks of a Markdown document. The text of paragraphs and headings is still to be read.
-/

set_option autoImplicit false

namespace Jaxrs.Markdown

/-- What counts as the same sort of list. -/
inductive ListKind where
  | bullet (mark : Char)
  | ordered (delimiter : Char)
  deriving Repr, DecidableEq

inductive Block where
  | paragraph (source : String)
  | heading (level : Nat) (source : String)
  | quote (content : List Block)
  /-- Paragraphs of tight items are written without tags. -/
  | list (kind : ListKind) (start : Nat) (isTight : Bool) (items : List (List Block))
  | code (info : String) (text : String)
  | html (text : String)
  | rule
  deriving Repr

end Jaxrs.Markdown
