import HtmlMarkdown.Markup.Html.Head

namespace HtmlMarkdown.Html

namespace Builder

def blockStartTags : List String :=
  ["address", "article", "aside", "blockquote", "center", "details", "dialog", "dir", "div", "dl",
    "fieldset", "figcaption", "figure", "footer", "header", "hgroup", "main", "menu", "nav", "ol",
    "p", "search", "section", "summary", "ul"]

def blockEndTags : List String :=
  ["address", "article", "aside", "blockquote", "button", "center", "details", "dialog", "dir",
    "div", "dl", "fieldset", "figcaption", "figure", "footer", "header", "hgroup", "listing",
    "main", "menu", "nav", "ol", "pre", "search", "section", "summary", "ul"]

def isHiddenInput (attrs : List (String × String)) : Bool :=
  match attrs.find? (·.1 == "type") with
  | some (_, v) => lowerAsciiText v == "hidden"
  | none => false

def itemToClose (b : Builder) (closes : List String) : List Nat → Option String
  | [] => none
  | id :: rest =>
    let it := b.item id
    if it.space == .html && closes.contains it.name then some it.name
    else if isSpecial it.space it.name && !b.isIn id ["address", "div", "p"] then none
    else itemToClose b closes rest

def tableModes : List Mode := [.inTable, .inCaption, .inTableBody, .inRow, .inCell]

def bodyStart (b : Builder) (tag : String) (attrs : List (String × String)) (selfClosing : Bool) :
    Outcome :=
  let name := if tag == "image" then "img" else tag
  if name == "html" then .done (b.mergeRootAttrs attrs)
  else if headTags.contains name then inHeadMode b (.startTag name attrs selfClosing)
  else if name == "body" then
    match b.body? with
    | some body =>
      if b.stack.size != 1 && !b.hasOpen "template" then
        .done { b with framesetOk := false, doc := b.doc.addMissingAttrs body attrs }
      else .done b
    | none => .done b
  else if name == "frameset" then
    if !b.framesetOk then .done b
    else match b.body? with
      | none => .done b
      | some body =>
        let b := { b with doc := b.doc.detach body, stack := b.stack.take 1 }
        .done { b.insertHtml name attrs with mode := .inFrameset }
  else if blockStartTags.contains name then .done (b.closePInButtonScope.insertHtml name attrs)
  else if headingTags.contains name then
    let b := b.closePInButtonScope
    let b := if !b.stack.isEmpty && b.isIn b.current headingTags then b.pop else b
    .done (b.insertHtml name attrs)
  else if name == "pre" || name == "listing" then
    .done { b.closePInButtonScope.insertHtml name attrs with skipNewline := true, framesetOk := false }
  else if name == "form" then
    if b.form.isSome && !b.hasOpen "template" then .done b
    else
      let (b, id) := b.closePInButtonScope.insertElement .html name attrs true
      .done (if b.hasOpen "template" then b else { b with form := some id })
  else if name == "li" || name == "dd" || name == "dt" then
    let b := { b with framesetOk := false }
    let closes := if name == "li" then ["li"] else ["dd", "dt"]
    let b := match b.itemToClose closes b.stack.toList.reverse with
      | some n => (b.generateImplied n).popUntilNamed n
      | none => b
    .done (b.closePInButtonScope.insertHtml name attrs)
  else if name == "plaintext" then
    let b := b.closePInButtonScope.insertHtml name attrs
    .done { b with lex := { b.lex with kind := .plaintext } }
  else if name == "button" then
    let b := if b.inScope .default "button" then (b.generateImplied "").popUntilNamed "button" else b
    .done { b.reconstruct.insertHtml name attrs with framesetOk := false }
  else if name == "a" then
    let b := match b.afterMarker.find? (fun (_, id, _) => b.isNamed id "a") with
      | some (_, node, _) =>
        let b := b.adoptionAgency "a"
        let b := match b.activeIndexOf node with
          | some i => { b with active := b.active.eraseIdx! i }
          | none => b
        b.removeFromStack node
      | none => b
    .done (b.reconstruct.pushFormatting ⟨name, attrs⟩)
  else if formattingTags.contains name then .done (b.reconstruct.pushFormatting ⟨name, attrs⟩)
  else if name == "nobr" then
    let b := b.reconstruct
    let b := if b.inScope .default "nobr" then (b.adoptionAgency "nobr").reconstruct else b
    .done (b.pushFormatting ⟨name, attrs⟩)
  else if ["applet", "marquee", "object"].contains name then
    let b := b.reconstruct.insertHtml name attrs
    .done { b with active := b.active.push .marker, framesetOk := false }
  else if name == "table" then
    let b := if b.quirks then b else b.closePInButtonScope
    .done { b.insertHtml name attrs with framesetOk := false, mode := .inTable }
  else if ["area", "br", "embed", "img", "keygen", "wbr", "input"].contains name then
    let b := b.reconstruct.insertVoid name attrs
    .done (if name == "input" && isHiddenInput attrs then b else { b with framesetOk := false })
  else if ["param", "source", "track"].contains name then .done (b.insertVoid name attrs)
  else if name == "hr" then .done { b.closePInButtonScope.insertVoid name attrs with framesetOk := false }
  else if name == "textarea" then
    .done ({ b with skipNewline := true, framesetOk := false }.insertRaw name attrs .rcdata)
  else if name == "xmp" then
    .done ({ b.closePInButtonScope.reconstruct with framesetOk := false }.insertRaw name attrs .rawtext)
  else if name == "iframe" then .done ({ b with framesetOk := false }.insertRaw name attrs .rawtext)
  else if name == "noembed" || name == "noscript" then .done (b.insertRaw name attrs .rawtext)
  else if name == "select" then
    let b := { b.reconstruct.insertHtml name attrs with framesetOk := false }
    .done { b with mode := if tableModes.contains b.mode then .inSelectInTable else .inSelect }
  else if name == "optgroup" || name == "option" then
    let b := if b.currentIs "option" then b.pop else b
    .done (b.reconstruct.insertHtml name attrs)
  else if name == "rb" || name == "rtc" then
    let b := if b.inScope .default "ruby" then b.generateImplied "" else b
    .done (b.insertHtml name attrs)
  else if name == "rp" || name == "rt" then
    let b := if b.inScope .default "ruby" then b.generateImplied "rtc" else b
    .done (b.insertHtml name attrs)
  else if name == "math" || name == "svg" then
    -- a foreign root opens where it stands: closed formatting elements are not reopened first
    let sp := if name == "math" then Space.mathml else .svg
    .done (b.insertElement sp name (foreignAttributes sp attrs) !selfClosing).1
  else if ["caption", "col", "colgroup", "frame", "head", "tbody", "td", "tfoot", "th", "thead",
      "tr"].contains name then .done b
  else .done (b.reconstruct.insertHtml name attrs)

def bodyEnd (b : Builder) (name : String) : Outcome :=
  if name == "template" then inHeadMode b (.endTag name)
  else if name == "body" then
    .done (if b.inScope .default "body" then { b with mode := .afterBody } else b)
  else if name == "html" then
    if b.inScope .default "body" then .again { b with mode := .afterBody } (.endTag name) else .done b
  else if blockEndTags.contains name then
    .done (if b.inScope .default name then (b.generateImplied "").popUntilNamed name else b)
  else if name == "form" then
    if !b.hasOpen "template" then
      match b.form with
      | none => .done b
      | some node =>
        let b := { b with form := none }
        if !b.inScopeWhere .default (· == node) then .done b
        else .done ((b.generateImplied "").removeFromStack node)
    else if !b.inScope .default "form" then .done b
    else .done ((b.generateImplied "").popUntilNamed "form")
  else if name == "p" then
    .done (if b.inScope .button "p" then b else b.insertHtml "p" []).closeP
  else if name == "li" then
    .done (if b.inScope .listItem "li" then (b.generateImplied "li").popUntilNamed "li" else b)
  else if name == "dd" || name == "dt" then
    .done (if b.inScope .default name then (b.generateImplied name).popUntilNamed name else b)
  else if headingTags.contains name then
    if b.inScopeWhere .default (b.isIn · headingTags) then
      .done ((b.generateImplied "").popUntil (b.isIn · headingTags))
    else .done b
  else if ["a", "b", "big", "code", "em", "font", "i", "nobr", "s", "small", "strike", "strong",
      "tt", "u"].contains name then .done (b.adoptionAgency name)
  else if ["applet", "marquee", "object"].contains name then
    .done (if b.inScope .default name then ((b.generateImplied "").popUntilNamed name).clearToMarker else b)
  else if name == "br" then bodyStart b "br" [] false
  else .done (b.closeElement name)

def inBodyMode (b : Builder) : Token → Outcome
  | .text s =>
    if s == "\x00" then .done b
    else
      let b := b.reconstruct
      let b := if isSpaceText s then b else { b with framesetOk := false }
      .done (b.insertText s)
  | .comment s => .done (b.insertComment s)
  | .startTag n attrs selfClosing => bodyStart b n attrs selfClosing
  | .endTag n => bodyEnd b n
  | .eof => if b.templateModes.isEmpty then .done b else templateEnd b .eof
  | .doctype _ => .done b

/-- A token processed by the body rules with misplaced content sent before the table. -/
def fosterInBody (b : Builder) (t : Token) : Outcome :=
  (inBodyMode { b with foster := true } t).map fun b => { b with foster := false }

end Builder

end HtmlMarkdown.Html
