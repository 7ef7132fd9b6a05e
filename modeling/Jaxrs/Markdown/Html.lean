import Jaxrs.Markdown.Block
import Jaxrs.Markdown.Inline

/-!
HTML of Markdown. Blocks start at the beginning of a line, but a block of HTML is written as it
is.
-/

set_option autoImplicit false

namespace Jaxrs.Markdown

def escapeTextChar (c : Char) : String :=
  if c == '<' then "&lt;" else if c == '>' then "&gt;" else if c == '&' then "&amp;"
  else String.singleton c

def escapeAttributeChar (c : Char) : String :=
  if c == '"' then "&quot;" else if c == '\'' then "&#39;" else escapeTextChar c

/-- The text in which every character is written by `f`. -/
def escapeWith (f : Char → String) (s : String) : String :=
  s.toList.foldl (fun out c => out ++ f c) ""

def escapeText (s : String) : String :=
  escapeWith escapeTextChar s

def escapeAttribute (s : String) : String :=
  escapeWith escapeAttributeChar s

def hexDigit (n : Nat) : Char :=
  if n < 10 then Char.ofNat ('0'.toNat + n) else Char.ofNat ('A'.toNat + (n - 10))

/-- A character of an address; those that an address cannot have are written as numbers. -/
def escapeHrefChar (c : Char) : String :=
  if c.isAlphanum || "!#$%()*+,-./:;=?@^_~".toList.contains c then String.singleton c
  else if c == '&' then "&amp;"
  else if c == '\'' then "&#x27;"
  else String.ofList ((String.singleton c).toUTF8.toList.flatMap fun byte =>
    ['%', hexDigit (byte.toNat / 16), hexDigit (byte.toNat % 16)])

def escapeHref (s : String) : String :=
  escapeWith escapeHrefChar s

def titleAttribute (title : String) : String :=
  if title.isEmpty then "" else " title=\"" ++ escapeAttribute title ++ "\""

mutual

/-- The text of an inline without any tags of its own, for an attribute. -/
def Inline.plain : Inline → String
  | .text s | .code s | .html s => escapeAttribute s
  | .softBreak | .hardBreak => " "
  | .emphasis content | .strong content | .link _ content | .image _ content => plainAll content

def plainAll : List Inline → String
  | [] => ""
  | i :: rest => i.plain ++ plainAll rest

end

mutual

def Inline.toHtml : Inline → String
  | .text s => escapeText s
  | .code s => "<code>" ++ escapeText s ++ "</code>"
  | .html s => s
  | .softBreak => "\n"
  | .hardBreak => "<br />\n"
  | .emphasis content => "<em>" ++ htmlAll content ++ "</em>"
  | .strong content => "<strong>" ++ htmlAll content ++ "</strong>"
  | .link target content =>
    "<a href=\"" ++ escapeHref target.destination ++ "\"" ++ titleAttribute target.title ++ ">" ++
      htmlAll content ++ "</a>"
  | .image target content =>
    "<img src=\"" ++ escapeHref target.destination ++ "\" alt=\"" ++ plainAll content ++ "\"" ++
      titleAttribute target.title ++ " />"

def htmlAll : List Inline → String
  | [] => ""
  | i :: rest => i.toHtml ++ htmlAll rest

end

/-- Ends the last line if it is not ended. -/
def freshLine (out : String) : String :=
  if out.isEmpty || out.endsWith "\n" then out else out ++ "\n"

/-- The language of a block of code is the first word of its info. -/
def languageAttribute (info : String) : String :=
  let language := (Text.segments ' ' info).headD ""
  if language.isEmpty then "" else " class=\"language-" ++ escapeAttribute language ++ "\""

def listTag : ListKind → String
  | .bullet _ => "ul"
  | .ordered _ => "ol"

def startAttribute (kind : ListKind) (start : Nat) : String :=
  match kind with
  | .bullet _ => ""
  | .ordered _ => if start = 1 then "" else " start=\"" ++ toString start ++ "\""

mutual

/-- Writes a block after `out`; paragraphs of tight items have no tags. -/
def Block.write (definitions : List Definition) (isTight : Bool) (out : String) :
    Block → String
  | .paragraph source =>
    let html := htmlAll (inlines definitions source)
    if isTight then out ++ html else freshLine out ++ "<p>" ++ html ++ "</p>\n"
  | .heading level source =>
    let tag := "h" ++ toString level
    freshLine out ++ "<" ++ tag ++ ">" ++ htmlAll (inlines definitions source) ++ "</" ++ tag ++
      ">\n"
  | .quote content =>
    writeAll definitions false (freshLine out ++ "<blockquote>\n") content ++ "</blockquote>\n"
  | .list kind start tight items =>
    writeItems definitions tight
      (freshLine out ++ "<" ++ listTag kind ++ startAttribute kind start ++ ">\n") items ++
      "</" ++ listTag kind ++ ">\n"
  | .code info text =>
    freshLine out ++ "<pre><code" ++ languageAttribute info ++ ">" ++ escapeText text ++
      "</code></pre>\n"
  | .html text => out ++ text
  | .rule => freshLine out ++ "<hr />\n"

def writeAll (definitions : List Definition) (isTight : Bool) (out : String) :
    List Block → String
  | [] => out
  | b :: rest => writeAll definitions isTight (b.write definitions isTight out) rest

def writeItems (definitions : List Definition) (isTight : Bool) (out : String) :
    List (List Block) → String
  | [] => out
  | item :: rest =>
    writeItems definitions isTight
      (writeAll definitions isTight (freshLine out ++ "<li>") item ++ "</li>\n") rest

end

end Jaxrs.Markdown
