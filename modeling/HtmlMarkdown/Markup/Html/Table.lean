import HtmlMarkdown.Markup.Html.Body

namespace HtmlMarkdown.Html

namespace Builder

def tableContext : List String := ["table", "template", "html"]

def tableBodyContext : List String := ["tbody", "tfoot", "thead", "template", "html"]

def rowContext : List String := ["tr", "template", "html"]

def inTableMode (b : Builder) : Token → Outcome
  | t@(.text _) =>
    if !b.stack.isEmpty && b.isIn b.current ["table", "tbody", "tfoot", "thead", "tr"] then
      .again { b with original := b.mode, mode := .inTableText } t
    else fosterInBody b t
  | .comment s => .done (b.insertComment s)
  | t@(.startTag n attrs _) =>
    if n == "caption" then
      let b := b.clearBackTo tableContext
      .done { (b.insertHtml n attrs) with active := b.active.push .marker, mode := .inCaption }
    else if n == "colgroup" then
      .done { (b.clearBackTo tableContext).insertHtml n attrs with mode := .inColumnGroup }
    else if n == "col" then
      .again { (b.clearBackTo tableContext).insertHtml "colgroup" [] with mode := .inColumnGroup } t
    else if ["tbody", "tfoot", "thead"].contains n then
      .done { (b.clearBackTo tableContext).insertHtml n attrs with mode := .inTableBody }
    else if ["td", "th", "tr"].contains n then
      .again { (b.clearBackTo tableContext).insertHtml "tbody" [] with mode := .inTableBody } t
    else if n == "table" then
      if b.inScope .table "table" then
        let b := b.popUntilNamed "table"
        .again { b with mode := b.resetMode } t
      else .done b
    else if ["style", "script", "template"].contains n then inHeadMode b t
    else if n == "input" then
      if isHiddenInput attrs then .done (b.insertVoid n attrs) else fosterInBody b t
    else if n == "form" then
      if !b.hasOpen "template" && b.form.isNone then
        let (b, id) := b.insertElement .html n attrs false
        .done { b with form := some id }
      else .done b
    else fosterInBody b t
  | t@(.endTag n) =>
    if n == "table" then
      if b.inScope .table "table" then
        let b := b.popUntilNamed "table"
        .done { b with mode := b.resetMode }
      else .done b
    else if ["body", "caption", "col", "colgroup", "html", "tbody", "td", "tfoot", "th", "thead",
        "tr"].contains n then .done b
    else if n == "template" then inHeadMode b t
    else fosterInBody b t
  | .eof => inBodyMode b .eof
  | t => fosterInBody b t

/-- Collecting a table's text: white space stays in the table, other text goes before it. -/
def inTableTextMode (b : Builder) : Token → Outcome
  | .text s => .done (if s == "\x00" then b else { b with tableText := b.tableText.push s })
  | t =>
    let pending := b.tableText
    let b := { b with tableText := #[] }
    let b := if pending.any (!isSpaceText ·) then
        pending.foldl (fun b s => match fosterInBody b (.text s) with
          | .done b => b
          | .again b _ => b) b
      else pending.foldl (fun b s => b.insertText s) b
    .again { b with mode := b.original } t

def inCaptionMode (b : Builder) (t : Token) : Outcome :=
  let closes := match t with
    | .startTag n _ _ =>
      ["caption", "col", "colgroup", "tbody", "td", "tfoot", "th", "thead", "tr"].contains n
    | .endTag n => n == "table" || n == "caption"
    | _ => false
  let ignored := match t with
    | .endTag n =>
      ["body", "col", "colgroup", "html", "tbody", "td", "tfoot", "th", "thead", "tr"].contains n
    | _ => false
  if closes then
    if b.inScope .table "caption" then
      let b := ((b.generateImplied "").popUntilNamed "caption").clearToMarker
      match t with
      | .endTag "caption" => .done { b with mode := .inTable }
      | _ => .again { b with mode := .inTable } t
    else .done b
  else if ignored then .done b
  else inBodyMode b t

def inColumnGroupMode (b : Builder) : Token → Outcome
  | .text s =>
    let (b, run, space) := b.firstRun s
    if space then .done (b.insertText run) else leave b (.text run)
  | .comment s => .done (b.insertComment s)
  | .startTag "html" attrs _ => .done (b.mergeRootAttrs attrs)
  | .startTag "col" attrs _ => .done (b.insertVoid "col" attrs)
  | .endTag "colgroup" => .done (if b.currentIs "colgroup" then { b.pop with mode := .inTable } else b)
  | .endTag "col" => .done b
  | t@(.startTag "template" _ _) => inHeadMode b t
  | t@(.endTag "template") => inHeadMode b t
  | .eof => inBodyMode b .eof
  | t => leave b t
where
  leave (b : Builder) (t : Token) : Outcome :=
    if b.currentIs "colgroup" then .again { b.pop with mode := .inTable } t else .done b

def inTableBodyMode (b : Builder) (t : Token) : Outcome :=
  match t with
  | .startTag "tr" attrs _ => .done { (b.clearBackTo tableBodyContext).insertHtml "tr" attrs with mode := .inRow }
  | .startTag "th" _ _ | .startTag "td" _ _ =>
    .again { (b.clearBackTo tableBodyContext).insertHtml "tr" [] with mode := .inRow } t
  | .endTag n =>
    if ["tbody", "tfoot", "thead"].contains n then
      .done (if b.inScope .table n then { (b.clearBackTo tableBodyContext).pop with mode := .inTable } else b)
    else if n == "table" then leaveBody
    else if ["body", "caption", "col", "colgroup", "html", "td", "th", "tr"].contains n then .done b
    else inTableMode b t
  | .startTag n _ _ =>
    if ["caption", "col", "colgroup", "tbody", "tfoot", "thead"].contains n then leaveBody
    else inTableMode b t
  | _ => inTableMode b t
where
  leaveBody : Outcome :=
    if b.inScopeWhere .table (b.isIn · ["table", "tbody", "tfoot"]) then
      .again { (b.clearBackTo tableBodyContext).pop with mode := .inTable } t
    else .done b

def inRowMode (b : Builder) (t : Token) : Outcome :=
  match t with
  | .startTag "th" attrs _ | .startTag "td" attrs _ =>
    let name := match t with
      | .startTag n _ _ => n
      | _ => "td"
    let b := (b.clearBackTo rowContext).insertHtml name attrs
    .done { b with mode := .inCell, active := b.active.push .marker }
  | .endTag "tr" =>
    .done (if b.inScope .table "tr" then { (b.clearBackTo rowContext).pop with mode := .inTableBody } else b)
  | .endTag n =>
    if n == "table" then leaveRow
    else if ["tbody", "tfoot", "thead"].contains n then
      if b.inScope .table n then (if b.inScope .table "tr" then leaveRow else .done b) else .done b
    else if ["body", "caption", "col", "colgroup", "html", "td", "th"].contains n then .done b
    else inTableMode b t
  | .startTag n _ _ =>
    if ["caption", "col", "colgroup", "tbody", "tfoot", "thead", "tr"].contains n then leaveRow
    else inTableMode b t
  | _ => inTableMode b t
where
  leaveRow : Outcome :=
    if b.inScope .table "tr" then .again { (b.clearBackTo rowContext).pop with mode := .inTableBody } t
    else .done b

def closeCell (b : Builder) : Builder :=
  ((b.generateImplied "").popUntil (b.isIn · ["td", "th"])).clearToMarker

def inCellMode (b : Builder) (t : Token) : Outcome :=
  match t with
  | .endTag n =>
    if n == "td" || n == "th" then
      if b.inScope .table n then
        .done { ((b.generateImplied "").popUntilNamed n).clearToMarker with mode := .inRow }
      else .done b
    else if ["body", "caption", "col", "colgroup", "html"].contains n then .done b
    else if ["table", "tbody", "tfoot", "thead", "tr"].contains n then
      if b.inScope .table n then .again { b.closeCell with mode := .inRow } t else .done b
    else inBodyMode b t
  | .startTag n _ _ =>
    if ["caption", "col", "colgroup", "tbody", "td", "tfoot", "th", "thead", "tr"].contains n then
      if b.inScopeWhere .table (b.isIn · ["td", "th"]) then .again { b.closeCell with mode := .inRow } t
      else .done b
    else inBodyMode b t
  | _ => inBodyMode b t

end Builder

end HtmlMarkdown.Html
