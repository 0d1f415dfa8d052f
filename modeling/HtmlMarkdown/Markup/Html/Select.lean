import HtmlMarkdown.Markup.Html.Table

namespace HtmlMarkdown.Html

namespace Builder

def inSelectMode (b : Builder) : Token → Outcome
  | .text s => .done (if s == "\x00" then b else b.insertText s)
  | .comment s => .done (b.insertComment s)
  | t@(.startTag n attrs _) =>
    if n == "html" then .done (b.mergeRootAttrs attrs)
    else if n == "option" then
      .done ((if b.currentIs "option" then b.pop else b).insertHtml n attrs)
    else if n == "optgroup" || n == "hr" then
      let b := if b.currentIs "option" then b.pop else b
      let b := if b.currentIs "optgroup" then b.pop else b
      .done (if n == "hr" then b.insertVoid n attrs else b.insertHtml n attrs)
    else if n == "select" then .done (closeSelect b)
    else if ["input", "keygen", "textarea"].contains n then
      if b.inScope .select "select" then
        let b := b.popUntilNamed "select"
        .again { b with mode := b.resetMode } t
      else .done b
    else if n == "script" || n == "template" then inHeadMode b t
    else .done b
  | t@(.endTag n) =>
    if n == "optgroup" then
      let below := b.stack.getD (b.stack.size - 2) 0
      let b := if 2 ≤ b.stack.size && b.currentIs "option" && b.isNamed below "optgroup" then b.pop else b
      .done (if b.currentIs "optgroup" then b.pop else b)
    else if n == "option" then .done (if b.currentIs "option" then b.pop else b)
    else if n == "select" then .done (closeSelect b)
    else if n == "template" then inHeadMode b t
    else .done b
  | .eof => inBodyMode b .eof
  | _ => .done b
where
  closeSelect (b : Builder) : Builder :=
    if b.inScope .select "select" then
      let b := b.popUntilNamed "select"
      { b with mode := b.resetMode }
    else b

def selectTableTags : List String := ["caption", "table", "tbody", "tfoot", "thead", "tr", "td", "th"]

def inSelectInTableMode (b : Builder) (t : Token) : Outcome :=
  match t with
  | .startTag n _ _ =>
    if selectTableTags.contains n then
      let b := b.popUntilNamed "select"
      .again { b with mode := b.resetMode } t
    else inSelectMode b t
  | .endTag n =>
    if selectTableTags.contains n then
      if b.inScope .table n then
        let b := b.popUntilNamed "select"
        .again { b with mode := b.resetMode } t
      else .done b
    else inSelectMode b t
  | _ => inSelectMode b t

def inTemplateMode (b : Builder) (t : Token) : Outcome :=
  match t with
  | .text _ | .comment _ => inBodyMode b t
  | .startTag n _ _ =>
    if headTags.contains n then inHeadMode b t
    else
      let m :=
        if ["caption", "colgroup", "tbody", "tfoot", "thead"].contains n then Mode.inTable
        else if n == "col" then .inColumnGroup
        else if n == "tr" then .inTableBody
        else if n == "td" || n == "th" then .inRow
        else .inBody
      .again { b with templateModes := m :: b.templateModes.drop 1, mode := m } t
  | .endTag "template" => inHeadMode b t
  | .eof => templateEnd b .eof
  | _ => .done b

end Builder

end HtmlMarkdown.Html
