import HtmlMarkdown.Markup.Html.AfterBody

namespace HtmlMarkdown.Html

namespace Builder

def byMode (b : Builder) (t : Token) : Outcome :=
  match b.mode with
  | .initial => initialMode b t
  | .beforeHtml => beforeHtmlMode b t
  | .beforeHead => beforeHeadMode b t
  | .inHead => inHeadMode b t
  | .afterHead => afterHeadMode b t
  | .inBody => inBodyMode b t
  | .text => textMode b t
  | .inTable => inTableMode b t
  | .inTableText => inTableTextMode b t
  | .inCaption => inCaptionMode b t
  | .inColumnGroup => inColumnGroupMode b t
  | .inTableBody => inTableBodyMode b t
  | .inRow => inRowMode b t
  | .inCell => inCellMode b t
  | .inSelect => inSelectMode b t
  | .inSelectInTable => inSelectInTableMode b t
  | .inTemplate => inTemplateMode b t
  | .afterBody => afterBodyMode b t
  | .inFrameset => inFramesetMode b t
  | .afterFrameset => afterFramesetMode b t
  | .afterAfterBody => afterAfterBodyMode b t
  | .afterAfterFrameset => afterAfterFramesetMode b t

def isForeign (b : Builder) (t : Token) : Bool :=
  match t with
  | .eof => false
  | _ =>
    if b.stack.isEmpty then false
    else
      let (sp, name) := b.adjustedCurrent
      let isText := match t with
        | .text _ => true
        | _ => false
      let startName := match t with
        | .startTag n _ _ => some n
        | _ => none
      if sp == .html then false
      else if isMathText sp name && (isText || (startName.isSome &&
          startName != some "mglyph" && startName != some "malignmark")) then false
      else if isSvgHtml sp name && (isText || startName.isSome) then false
      else if sp == .mathml && name == "annotation-xml" && startName == some "svg" then false
      else true

def breakoutTags : List String :=
  ["b", "big", "blockquote", "body", "br", "center", "code", "dd", "div", "dl", "dt", "em", "embed",
    "h1", "h2", "h3", "h4", "h5", "h6", "head", "hr", "i", "img", "li", "listing", "menu", "meta",
    "nobr", "ol", "p", "pre", "ruby", "s", "small", "span", "strong", "strike", "sub", "sup",
    "table", "tt", "u", "ul", "var"]

def breakOut (b : Builder) (t : Token) : Outcome :=
  let b := b.popWhile fun id =>
    let it := b.item id
    !(it.space == .html || isMathText it.space it.name || isSvgHtml it.space it.name)
  b.byMode t

def foreignEnd (b : Builder) (t : Token) (name : String) : Nat → Bool → Outcome
  | 0, _ => .done b
  | i + 1, first =>
    if i == 0 then .done b
    else
      let id := b.stack.getD i 0
      let it := b.item id
      if !first && it.space == .html then b.byMode t
      else if lowerAsciiText it.name == name then .done { b with stack := b.stack.take i }
      else foreignEnd b t name i false

def foreignMode (b : Builder) (t : Token) : Outcome :=
  match t with
  | .text s =>
    if s == "\x00" then .done (b.insertText "�")
    else
      let b := if isSpaceText s then b else { b with framesetOk := false }
      .done (b.insertText s)
  | .comment s => .done (b.insertComment s)
  | .startTag n attrs selfClosing =>
    let fontBreaks := n == "font" && attrs.any fun (k, _) => k == "color" || k == "face" || k == "size"
    if breakoutTags.contains n || fontBreaks then breakOut b t
    else
      let sp := b.adjustedCurrent.1
      .done (b.insertElement sp n (foreignAttributes sp attrs) !selfClosing).1
  | .endTag n =>
    if n == "br" || n == "p" then breakOut b t
    else foreignEnd b t n b.stack.size true
  | _ => .done b

/-- One step of tree construction. -/
def step (b : Builder) (t : Token) : Outcome :=
  match t with
  | .doctype d =>
    if b.mode == .initial then .done { b with quirks := d.isQuirky, mode := .beforeHtml } else .done b
  | _ => if b.isForeign t then b.foreignMode t else b.byMode t

def process : Nat → Builder → Token → Builder
  | 0, b, _ => b
  | n + 1, b, t =>
    match b.step t with
    | .done b =>
      match b.pending with
      | [] => b
      | s :: rest => process n { b with pending := rest } (.text s)
    | .again b t => process n b t

def weight : Token → Nat
  | .text s => 4 * s.length + 64
  | _ => 64

/-- Feeds a token: a line feed right after `pre`, `listing` or `textarea` is dropped. -/
def feed (b : Builder) (t : Token) : Builder :=
  let skip := b.skipNewline
  let b := { b with skipNewline := false }
  let b := match t with
    | .startTag n _ _ => { b with lex := { b.lex with kind := .data, lastStartTag := n } }
    | .endTag _ => { b with lex := { b.lex with kind := .data } }
    | _ => b
  let t := match t with
    | .text s => if skip && s.front == '\n' then Token.text (s.drop 1).copy else t
    | _ => t
  match t with
  | .text "" => b
  | _ =>
    let b := process (weight t) b t
    let (sp, _) := b.adjustedCurrent
    { b with lex := { b.lex with foreign := !b.stack.isEmpty && sp != .html } }

def runFor : Nat → Builder → List Char → Builder
  | 0, b, _ => b.feed .eof
  | fuel + 1, b, cs =>
    if cs.isEmpty then b.feed .eof
    else
      let (t, rest) := nextToken b.lex cs
      let b := match t with
        | some t => b.feed t
        | none => b
      runFor fuel b rest

/-- Tokenizes the input and builds the tree; every token takes a character, so the fuel suffices. -/
def run (b : Builder) (cs : List Char) : Builder := runFor (cs.length + 1) b cs

end Builder

end HtmlMarkdown.Html
