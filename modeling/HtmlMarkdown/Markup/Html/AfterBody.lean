import HtmlMarkdown.Markup.Html.Select

namespace HtmlMarkdown.Html

namespace Builder

def afterBodyMode (b : Builder) : Token → Outcome
  | .text s =>
    let (b, run, space) := b.firstRun s
    if space then inBodyMode b (.text run) else .again { b with mode := .inBody } (.text run)
  | .comment s => .done (b.appendComment (b.stack.getD 0 0) s)
  | .startTag "html" attrs _ => .done (b.mergeRootAttrs attrs)
  | .endTag "html" => .done (if b.fragment then b else { b with mode := .afterAfterBody })
  | .eof => .done b
  | t => .again { b with mode := .inBody } t

def afterAfterBodyMode (b : Builder) : Token → Outcome
  | .text s =>
    let (b, run, space) := b.firstRun s
    if space then inBodyMode b (.text run) else .again { b with mode := .inBody } (.text run)
  | .comment s => .done (b.appendComment 0 s)
  | .startTag "html" attrs _ => .done (b.mergeRootAttrs attrs)
  | .eof => .done b
  | t => .again { b with mode := .inBody } t

def inFramesetMode (b : Builder) : Token → Outcome
  | .text s =>
    let (b, run, space) := b.firstRun s
    .done (if space then b.insertText run else b)
  | .comment s => .done (b.insertComment s)
  | .startTag "html" attrs _ => .done (b.mergeRootAttrs attrs)
  | .startTag "frameset" attrs _ => .done (b.insertHtml "frameset" attrs)
  | .endTag "frameset" =>
    if b.stack.size == 1 then .done b
    else
      let b := b.pop
      .done (if !b.fragment && !b.currentIs "frameset" then { b with mode := .afterFrameset } else b)
  | .startTag "frame" attrs _ => .done (b.insertVoid "frame" attrs)
  | t@(.startTag "noframes" _ _) => inHeadMode b t
  | _ => .done b

def afterFramesetMode (b : Builder) : Token → Outcome
  | .text s =>
    let (b, run, space) := b.firstRun s
    .done (if space then b.insertText run else b)
  | .comment s => .done (b.insertComment s)
  | .startTag "html" attrs _ => .done (b.mergeRootAttrs attrs)
  | .endTag "html" => .done { b with mode := .afterAfterFrameset }
  | t@(.startTag "noframes" _ _) => inHeadMode b t
  | _ => .done b

def afterAfterFramesetMode (b : Builder) : Token → Outcome
  | .text s =>
    let (b, run, space) := b.firstRun s
    if space then inBodyMode b (.text run) else .done b
  | .comment s => .done (b.appendComment 0 s)
  | .startTag "html" attrs _ => .done (b.mergeRootAttrs attrs)
  | t@(.startTag "noframes" _ _) => inHeadMode b t
  | _ => .done b

end Builder

end HtmlMarkdown.Html
