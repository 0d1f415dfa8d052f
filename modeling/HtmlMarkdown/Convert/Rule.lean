import HtmlMarkdown.Text.Lower

namespace HtmlMarkdown

/-- How a node converts to Markdown. -/
inductive Rule where
  | text
  | comment
  | paragraph
  | div
  | aside
  | blockquote
  | list
  | listItem
  | table
  | row
  | cell
  | codeBlock
  | code
  | emphasis
  | strong
  | strikethrough
  | link
  | image
  | lineBreak
  | horizontalRule
  | heading
  | passThrough
  | drop
  | bypass
  deriving DecidableEq, Repr

/-- Whether a rule renders a block of its own, already wrapped to its own width. -/
def Rule.isBlock : Rule → Bool
  | .paragraph | .div | .aside | .blockquote | .list | .listItem | .table | .codeBlock
  | .horizontalRule | .heading => true
  | _ => false

def Rule.name : Rule → String
  | .text => "Text"
  | .comment => "Comment"
  | .paragraph => "Paragraph"
  | .div => "Div"
  | .aside => "Aside"
  | .blockquote => "Blockquote"
  | .list => "List"
  | .listItem => "ListItem"
  | .table => "Table"
  | .row => "Row"
  | .cell => "Cell"
  | .codeBlock => "CodeBlock"
  | .code => "Code"
  | .emphasis => "Emphasis"
  | .strong => "Strong"
  | .strikethrough => "Strikethrough"
  | .link => "Link"
  | .image => "Image"
  | .lineBreak => "LineBreak"
  | .horizontalRule => "HorizontalRule"
  | .heading => "Heading"
  | .passThrough => "PassThrough"
  | .drop => "Drop"
  | .bypass => "Bypass"

def Rule.all : List Rule :=
  [.text, .comment, .paragraph, .div, .aside, .blockquote, .list, .listItem, .table, .row, .cell,
    .codeBlock, .code, .emphasis, .strong, .strikethrough, .link, .image, .lineBreak,
    .horizontalRule, .heading, .passThrough, .drop, .bypass]

def Rule.ofName? (name : String) : Option Rule := Rule.all.find? (·.name == name)

/-- Tags bound to rules, in the order they were first bound. -/
structure Registry where
  entries : List (String × Rule)

namespace Registry

def builtIn : Registry := ⟨[
  ("#text", .text), ("#comment", .comment), ("#document", .bypass),
  ("#document-fragment", .bypass), ("html", .bypass), ("body", .bypass), ("p", .paragraph),
  ("div", .div), ("aside", .aside), ("blockquote", .blockquote), ("ol", .list), ("ul", .list),
  ("li", .listItem), ("table", .table), ("thead", .bypass), ("tbody", .bypass),
  ("tfoot", .bypass), ("colgroup", .drop), ("col", .drop), ("tr", .row), ("td", .cell),
  ("th", .cell), ("pre", .codeBlock), ("code", .code), ("em", .emphasis), ("i", .emphasis),
  ("strong", .strong), ("b", .strong), ("del", .strikethrough), ("s", .strikethrough),
  ("strike", .strikethrough), ("a", .link), ("img", .image), ("br", .lineBreak),
  ("hr", .horizontalRule), ("h1", .heading), ("h2", .heading), ("h3", .heading),
  ("h4", .heading), ("h5", .heading), ("h6", .heading), ("span", .bypass)]⟩

/-- Binds a key to a rule: a bound key keeps its place, a new one goes last. -/
def bindKey (entries : List (String × Rule)) (key : String) (rule : Rule) : List (String × Rule) :=
  if entries.any (·.1 == key) then entries.map fun (k, r) => if k == key then (k, rule) else (k, r)
  else entries ++ [(key, rule)]

/-- Binds a tag, lowercased, to a rule. -/
def register (reg : Registry) (tag : String) (rule : Rule) : Registry :=
  ⟨bindKey reg.entries (lowercase tag) rule⟩

def keep (reg : Registry) (tags : List String) : Registry :=
  tags.foldl (fun r t => r.register t .passThrough) reg

def remove (reg : Registry) (tags : List String) : Registry :=
  tags.foldl (fun r t => r.register t .drop) reg

def get? (reg : Registry) (tag : String) : Option Rule := (reg.entries.find? (·.1 == tag)).map (·.2)

def tags (reg : Registry) : List String := reg.entries.map (·.1)

end Registry

end HtmlMarkdown
