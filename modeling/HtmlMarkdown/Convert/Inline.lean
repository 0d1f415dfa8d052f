import HtmlMarkdown.Convert.Resolve
import HtmlMarkdown.Convert.Fragment
import HtmlMarkdown.Markup.Url
import HtmlMarkdown.Markup.Block
import HtmlMarkdown.Markup.Shield

namespace HtmlMarkdown

def decodeText (raw : String) : String :=
  let shielded := replaceText "&gt;" gtShield.toString (replaceText "&lt;" ltShield.toString raw)
  let decoded := decodeEntities shielded
  replaceText gtShield.toString "&gt;" (replaceText ltShield.toString "&lt;" decoded)

def blankTextParents : List String := ["ol", "ul", "table", "thead", "tbody", "tfoot", "tr"]

/-- The Markdown of a text node; blank text is one space only where it is exactly one space. -/
def textMarkdown (o : Options) (c : Cursor) : String :=
  let raw := c.node.value
  if c.node.isBlankText then
    match c.parentTag? with
    | some t => if blankTextParents.contains t then "" else if raw == " " then " " else ""
    | none => if raw == " " then " " else ""
  else escape o.escapeRules (decodeText raw)

def longestRun (s : String) (c : Char) : Nat :=
  (s.toList.foldl (fun (best, cur) d => if d == c then (max best (cur + 1), cur + 1) else (best, 0))
    (0, 0)).1

/-- A code span: a fence one backtick longer than any run inside, padded around edge backticks. -/
def codeSpan (code : String) : Fragment :=
  if code.isEmpty then {}
  else
    let fence := String.ofList (List.replicate (longestRun code '`' + 1) '`')
    let pad := if code.toList.head? == some '`' || code.toList.getLast? == some '`' then " " else ""
    ⟨fence ++ pad, code, pad ++ fence⟩

def escapeLinkText (s : String) : String :=
  String.join (s.toList.map fun c => if c == '[' || c == ']' then "\\" ++ c.toString else c.toString)

def cleanAttribute (v : Option String) : String := trimWhite (v.getD "")

def titleSuffix (c : Cursor) : String :=
  let title := cleanAttribute (c.node.attr? "title")
  if title.isEmpty then "" else " \"" ++ replaceText "\"" "\\\"" title ++ "\""

def dropsTo (s pre rest : String) : Bool :=
  pre.toList.isPrefixOf s.toList && String.ofList (s.toList.drop pre.length) == rest

/-- A link from its converted name, or the name alone when the target is missing or refused. -/
def linkFragment (o : Options) (c : Cursor) (converted : String) : Fragment :=
  let name := trimWhite converted
  let href := cleanAttribute (c.node.attr? "href")
  if href.isEmpty || name.isEmpty || !o.allowsScheme (uriScheme href) then .ofContent name
  else if o.smartHrefs && name == href then .ofContent href
  else if o.smartHrefs && ["http://", "https://", "mailto:", "tel:"].any (dropsTo href · name) then
    .ofContent name
  else ⟨"[", name, "](" ++ encodeUrl href ++ titleSuffix c ++ ")"⟩

/-- An image; its source is written as it is, and a refused scheme leaves nothing. -/
def imageFragment (o : Options) (c : Cursor) : Fragment :=
  let src := cleanAttribute (c.node.attr? "src")
  if !o.allowsScheme (uriScheme src) then {}
  else
    let alt := escapeLinkText ((c.node.attr? "alt").getD "")
    .ofContent ("![" ++ alt ++ "](" ++ src ++ titleSuffix c ++ ")")

def rendersInline (n : Node) : Bool :=
  n.isTag "img" || n.hasDescendant "img" || !isWhiteText n.innerText

/-- Whether something renders after a line break on its line; a block-level element ends it. -/
def trailingContent : List Node → Bool
  | [] => false
  | s :: rest =>
    if s.isText then !s.isBlankText || trailingContent rest
    else if s.isTag "br" then trailingContent rest
    else if s.isElement then
      if isBlockTag s.name then false
      else rendersInline s || trailingContent rest
    else trailingContent rest

/-- A line break: two trailing spaces, or in GitHub Markdown a backslash before more content. -/
def lineBreakFragment (o : Options) (c : Cursor) : Fragment :=
  if !o.githubFlavored then ⟨"", "  ", "\n"⟩
  else if c.ancestors.any (fun a => a.isTag "td" || a.isTag "th") ||
      !trailingContent c.followingSiblings then ⟨"", "", "\n"⟩
  else ⟨"", "\\", "\n"⟩

/-- Emphasis from its converted content: a lone trailing backslash is doubled, and white content or
an ancestor of the same kind leaves the delimiters out. -/
def delimitedFragment (kind : List String) (delim : String) (c : Cursor) (converted : String) :
    Fragment :=
  let cs := converted.toList
  let content := if cs.getLast? == some '\\' && !(cs.reverse.take 2 == ['\\', '\\']) then
      converted ++ "\\" else converted
  let nested := c.ancestors.any fun a => kind.any a.isTag
  if isWhiteText content || nested then .ofContent content
  else
    let sep := match c.nextSibling? with
      | some n => if kind.any n.isTag then " " else ""
      | none => ""
    ⟨delim, content, delim ++ sep⟩

end HtmlMarkdown
