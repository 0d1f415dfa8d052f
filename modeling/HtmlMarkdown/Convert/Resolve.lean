import HtmlMarkdown.Markup.Cursor
import HtmlMarkdown.Text.Layout
import HtmlMarkdown.Convert.Options

namespace HtmlMarkdown

def lineLength : Nat := 80

def hasShortcodeOpen (s : String) : Bool := (findSeq? ['{', '{', '<'] s.toList).isSome

/-- The marker of a list item: its number and a full stop in an ordered list, else the bullet. -/
def listItemMarker (o : Options) (c : Cursor) : String :=
  if c.parentTag? = some "ol" then
    toString ((c.precedingSiblings.filter (·.isTag "li")).length + 1) ++ ". "
  else o.bulletMarker.toString ++ " "

def markerWidth (o : Options) (c : Cursor) : Nat := (listItemMarker o c).length

def defersShortcode (c : Cursor) : Bool :=
  (c.tag == "p" || c.tag == "div") && (c.hasAncestor "blockquote" || c.hasAncestor "div")

/-- Whether a paragraph or div holding a shortcode is left unwrapped for its container to wrap. -/
def defersToContainer (c : Cursor) : Bool :=
  (c.tag == "p" || c.tag == "div") && !c.hasAncestor "pre" && !c.hasDescendant "pre" &&
    !c.hasDescendant "table" && !c.hasDescendant "blockquote" &&
    hasShortcodeOpen c.innerText && defersShortcode c

def wrappableTags : List String := ["blockquote", "div", "li", "p"]

/-- The layout of a node's content; the first case that applies decides. -/
def resolveLayout (o : Options) (c : Cursor) : Layout :=
  let tag := c.tag
  if tag == "pre" || c.hasAncestor "pre" || c.hasDescendant "pre" then .preserve
  else if c.hasDescendant "table" then .preserve
  else
    let wrappable := wrappableTags.contains tag
    if wrappable && hasShortcodeOpen c.innerText &&
        (c.hasDescendant "blockquote" || defersShortcode c) then .preserve
    else if wrappable then
      if c.hasAncestor "table" then ⟨tag != "div", none⟩
      else
        let quotes := 2 * (c.countAncestors "blockquote" + if tag == "blockquote" then 1 else 0)
        let own := if tag == "li" then markerWidth o c else 0
        let lists := own + ((c.ancestors.filter (·.isTag "li")).map (markerWidth o)).foldl (· + ·) 0
        let used := quotes + lists
        ⟨tag != "div", if used < lineLength then some (lineLength - used) else none⟩
    else .preserve

/-- How a node's content is chunked: shortcodes ignored unless enabled, kept whole in a blockquote,
split elsewhere. -/
def chunkerFor (o : Options) (c : Cursor) : ShortcodeMode :=
  if !o.shortcodes then .disabled
  else if c.isTag "blockquote" then .atomic
  else .split

end HtmlMarkdown
