import HtmlMarkdown.Text.Lower

namespace HtmlMarkdown

def blockTags : List String :=
  ["address", "article", "aside", "audio", "blockquote", "body", "canvas", "center", "dd", "dir",
    "div", "dl", "dt", "fieldset", "figcaption", "figure", "footer", "form", "frameset", "h1",
    "h2", "h3", "h4", "h5", "h6", "header", "hgroup", "hr", "html", "isindex", "li", "main",
    "menu", "nav", "noframes", "noscript", "ol", "output", "p", "pre", "section", "table",
    "tbody", "td", "tfoot", "th", "thead", "tr", "ul", "video"]

/-- Whether a tag, in lowercase, is a block-level element. -/
def isBlockTag (tag : String) : Bool := blockTags.contains (lowercase tag)

end HtmlMarkdown
