import Jaxrs.Markdown.Line

/-!
HTML inside Markdown: tags, comments and the like within a paragraph, and the lines that open a
block of HTML. A scanner takes what follows the `<` and gives what follows the construct.
-/

set_option autoImplicit false

namespace Jaxrs.Markdown.RawHtml

/-- What follows `pattern` at the start of a text. -/
def dropPrefix? (pattern : String) (s : List Char) : Option (List Char) :=
  if pattern.toList.isPrefixOf s then some (s.drop pattern.length) else none

/-- What follows the first place where a text has `pattern`. -/
def past? (pattern : String) : List Char → Option (List Char)
  | [] => none
  | c :: rest => dropPrefix? pattern (c :: rest) <|> past? pattern rest

def name? (isFirst isLater : Char → Bool) : List Char → Option (List Char)
  | [] => none
  | c :: rest => if isFirst c then some (rest.dropWhile isLater) else none

def tagName? : List Char → Option (List Char) :=
  name? Char.isAlpha fun c => c.isAlphanum || c == '-'

def attributeName? : List Char → Option (List Char) :=
  name? (fun c => c.isAlpha || c == '_' || c == ':') fun c =>
    c.isAlphanum || c == '_' || c == ':' || c == '.' || c == '-'

def dropBlanks (s : List Char) : List Char :=
  s.dropWhile isAsciiBlank

def attributeValue? : List Char → Option (List Char)
  | [] => none
  | c :: rest =>
    if c == '"' || c == '\'' then past? (String.singleton c) rest
    else name? isUnquoted isUnquoted (c :: rest)
where
  isUnquoted (c : Char) : Bool :=
    !(isSpaceOrTab c || c == '\n' || c == '\r' || "\"'=<>\x60".toList.contains c)

def attribute? (s : List Char) : Option (List Char) := do
  let rest ← attributeName? s
  match dropBlanks rest with
  | '=' :: value => attributeValue? (dropBlanks value)
  | _ => some rest

/-- Attributes up to the end of the tag, with a blank before each. -/
def attributes? (s : List Char) : Option (List Char) :=
  let next := dropBlanks s
  match next with
  | '/' :: _ | '>' :: _ => some next
  | _ =>
    if next.length = s.length then none
    else match attribute? next with
      | none => none
      | some rest => if rest.length < s.length then attributes? rest else none
termination_by s.length

def openTag? (s : List Char) : Option (List Char) := do
  let rest ← attributes? (← tagName? s)
  dropPrefix? "/>" rest <|> dropPrefix? ">" rest

def closeTag? (s : List Char) : Option (List Char) := do
  let rest ← tagName? (← dropPrefix? "/" s)
  dropPrefix? ">" (rest.dropWhile isLineBlank)

def comment? (s : List Char) : Option (List Char) := do
  let rest ← dropPrefix? "!--" s
  dropPrefix? ">" rest <|> dropPrefix? "->" rest <|> past? "-->" rest

def declaration? (s : List Char) : Option (List Char) := do
  past? ">" (← name? Char.isAlpha (fun _ => false) (← dropPrefix? "!" s))

def inline? (s : List Char) : Option (List Char) :=
  openTag? s <|> closeTag? s <|> comment? s <|> (dropPrefix? "?" s >>= past? "?>") <|>
    (dropPrefix? "![CDATA[" s >>= past? "]]>") <|> declaration? s

/-- A block of HTML ends after a line that has a certain text, or before a blank line. -/
inductive BlockEnd where
  | after (text : String)
  | beforeBlank
  deriving Repr

/-- Tags whose block ends where they are closed. -/
def verbatimTags : List String :=
  ["pre", "style", "script", "textarea"]

/-- Tags that open a block even in front of other text. -/
def blockTags : List String :=
  ["address", "article", "aside", "base", "basefont", "blockquote", "body", "caption", "center",
    "col", "colgroup", "dd", "details", "dialog", "dir", "div", "dl", "dt", "fieldset",
    "figcaption", "figure", "footer", "form", "frame", "frameset", "h1", "h2", "h3", "h4", "h5",
    "h6", "head", "header", "hr", "html", "iframe", "legend", "li", "link", "main", "menu",
    "menuitem", "nav", "noframes", "ol", "optgroup", "option", "p", "param", "search", "section",
    "summary", "table", "tbody", "td", "tfoot", "th", "thead", "title", "tr", "track", "ul"]

def lowerName (s : List Char) : String :=
  String.ofList ((s.takeWhile Char.isAlphanum).map Char.toLower)

/-- The text that ends the block which a line opens. -/
def endText? (s : List Char) : Option String :=
  let name := lowerName s
  if verbatimTags.contains name && ((s[name.length]?).all fun c => isAsciiBlank c || c == '>') then
    some s!"</{name}>"
  else if (dropPrefix? "!--" s).isSome then some "-->"
  else if (dropPrefix? "?" s).isSome then some "?>"
  else if (dropPrefix? "![CDATA[" s).isSome then some "]]>"
  else if (s[0]? == some '!') && (s[1]?).any Char.isAlpha then some ">"
  else none

def opensBlockTag (s : List Char) : Bool :=
  let s := if s[0]? == some '/' then s.drop 1 else s
  let name := lowerName s
  blockTags.contains name &&
    (match s.drop name.length with
      | [] | ' ' :: _ | '\t' :: _ | '>' :: _ | '/' :: '>' :: _ => true
      | _ => false)

/-- How the block ends that a line opens, even within a paragraph. -/
def interrupting? (s : List Char) : Option BlockEnd :=
  match endText? s with
  | some text => some (.after text)
  | none => if opensBlockTag s then some .beforeBlank else none

/-- How the block ends that a line opens; a tag that stands alone in its line opens one too. -/
def block? (s : List Char) : Option BlockEnd :=
  interrupting? s <|>
    match openTag? s <|> closeTag? s with
    | some rest => if rest.all isLineBlank then some .beforeBlank else none
    | none => none

end Jaxrs.Markdown.RawHtml
