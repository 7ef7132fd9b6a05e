import Jaxrs.Markdown.Html
import Jaxrs.Markdown.OpenDocument

/-!
Markdown as HTML. Links may be defined anywhere in the text, so the text of blocks is only read
after all blocks are known.
-/

set_option autoImplicit false

namespace Jaxrs.Markdown

def toHtml (text : String) : String :=
  let (content, definitions) := blocks text
  writeAll definitions false "" content

end Jaxrs.Markdown
