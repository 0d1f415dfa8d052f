import HtmlMarkdown.Markup.Html.Builder

namespace HtmlMarkdown.Html

namespace Builder

def headTags : List String :=
  ["base", "basefont", "bgsound", "link", "meta", "noframes", "script", "style", "template", "title"]

def createRoot (b : Builder) (attrs : List (String × String)) : Builder :=
  let (b, id) := b.createElement .html "html" attrs
  { b with doc := b.doc.append 0 id, stack := b.stack.push id }

/-- Closes the last open template, or ends parsing when none is open. -/
def templateEnd (b : Builder) (t : Token) : Outcome :=
  if !b.hasOpen "template" then .done b
  else
    let b := (b.popUntilNamed "template").clearToMarker
    let b := { b with templateModes := b.templateModes.drop 1 }
    .again { b with mode := b.resetMode } t

def initialMode (b : Builder) : Token → Outcome
  | .text s =>
    let (b, run, space) := b.firstRun s
    if space then .done b else .again { b with quirks := true, mode := .beforeHtml } (.text run)
  | .comment s => .done (b.appendComment 0 s)
  | t => .again { b with quirks := true, mode := .beforeHtml } t

def beforeHtmlMode (b : Builder) : Token → Outcome
  | .text s =>
    let (b, run, space) := b.firstRun s
    if space then .done b else .again { b.createRoot [] with mode := .beforeHead } (.text run)
  | .comment s => .done (b.appendComment 0 s)
  | .startTag "html" attrs _ => .done { b.createRoot attrs with mode := .beforeHead }
  | t@(.endTag n) =>
    if ["head", "body", "html", "br"].contains n then .again { b.createRoot [] with mode := .beforeHead } t
    else .done b
  | t => .again { b.createRoot [] with mode := .beforeHead } t

def beforeHeadMode (b : Builder) : Token → Outcome
  | .text s =>
    let (b, run, space) := b.firstRun s
    if space then .done b else .again (openHead b) (.text run)
  | .comment s => .done (b.insertComment s)
  | .startTag "html" attrs _ => .done (b.mergeRootAttrs attrs)
  | .startTag "head" attrs _ =>
    let (b, id) := b.insertElement .html "head" attrs true
    .done { b with head := some id, mode := .inHead }
  | t@(.endTag n) => if ["head", "body", "html", "br"].contains n then .again (openHead b) t else .done b
  | t => .again (openHead b) t
where
  openHead (b : Builder) : Builder :=
    let (b, id) := b.insertElement .html "head" [] true
    { b with head := some id, mode := .inHead }

def inHeadMode (b : Builder) : Token → Outcome
  | .text s =>
    let (b, run, space) := b.firstRun s
    if space then .done (b.insertText run) else .again { b.pop with mode := .afterHead } (.text run)
  | .comment s => .done (b.insertComment s)
  | .startTag "html" attrs _ => .done (b.mergeRootAttrs attrs)
  | t@(.startTag n attrs _) =>
    if ["base", "basefont", "bgsound", "link", "meta"].contains n then .done (b.insertVoid n attrs)
    else if n == "title" then .done (b.insertRaw n attrs .rcdata)
    else if ["noframes", "style", "noscript"].contains n then .done (b.insertRaw n attrs .rawtext)
    else if n == "script" then .done (b.insertRaw n attrs .script)
    else if n == "template" then
      let modes := Mode.inTemplate :: b.templateModes
      let b := { b with active := b.active.push .marker, framesetOk := false }
      let b := { b with mode := .inTemplate, templateModes := modes }
      .done (b.insertHtml n attrs)
    else if n == "head" then .done b
    else .again { b.pop with mode := .afterHead } t
  | t@(.endTag n) =>
    if n == "head" then .done { b.pop with mode := .afterHead }
    else if n == "template" then
      if !b.hasOpen "template" then .done b
      else
        let b := (b.generateAllImplied.popUntilNamed "template").clearToMarker
        let b := { b with templateModes := b.templateModes.drop 1 }
        .done { b with mode := b.resetMode }
    else if ["body", "html", "br"].contains n then .again { b.pop with mode := .afterHead } t
    else .done b
  | t => .again { b.pop with mode := .afterHead } t

def afterHeadMode (b : Builder) : Token → Outcome
  | .text s =>
    let (b, run, space) := b.firstRun s
    if space then .done (b.insertText run) else .again (openBody b) (.text run)
  | .comment s => .done (b.insertComment s)
  | .startTag "html" attrs _ => .done (b.mergeRootAttrs attrs)
  | .startTag "body" attrs _ => .done { b.insertHtml "body" attrs with framesetOk := false, mode := .inBody }
  | .startTag "frameset" attrs _ => .done { b.insertHtml "frameset" attrs with mode := .inFrameset }
  | t@(.startTag n _ _) =>
    if headTags.contains n then
      let head := b.head.getD 0
      (inHeadMode { b with stack := b.stack.push head } t).map (·.removeFromStack head)
    else if n == "head" then .done b
    else .again (openBody b) t
  | t@(.endTag n) =>
    if n == "template" then inHeadMode b t
    else if ["body", "html", "br"].contains n then .again (openBody b) t
    else .done b
  | t => .again (openBody b) t
where
  openBody (b : Builder) : Builder := { b.insertHtml "body" [] with mode := .inBody }

/-- Inside raw text: text is inserted, and the end tag or the end of the input closes the element. -/
def textMode (b : Builder) : Token → Outcome
  | .text s => .done (b.insertText s)
  | .eof => .again { b.pop with mode := b.original } .eof
  | .endTag _ => .done { b.pop with mode := b.original }
  | _ => .done b

end Builder

end HtmlMarkdown.Html
