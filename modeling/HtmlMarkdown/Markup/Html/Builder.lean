import HtmlMarkdown.Markup.Html.Element
import HtmlMarkdown.Markup.Html.Lexer

namespace HtmlMarkdown.Html

inductive Mode where
  | initial
  | beforeHtml
  | beforeHead
  | inHead
  | afterHead
  | inBody
  | text
  | inTable
  | inTableText
  | inCaption
  | inColumnGroup
  | inTableBody
  | inRow
  | inCell
  | inSelect
  | inSelectInTable
  | inTemplate
  | afterBody
  | inFrameset
  | afterFrameset
  | afterAfterBody
  | afterAfterFrameset
  deriving DecidableEq, Inhabited

structure Tag where
  name : String
  attrs : List (String × String)

def Tag.equiv (a b : Tag) : Bool :=
  a.name == b.name && a.attrs.length == b.attrs.length && a.attrs.all (b.attrs.contains ·)

inductive Formatting where
  | marker
  | element (id : Nat) (tag : Tag)

/-- The state of tree building. -/
structure Builder where
  doc : Document := {}
  stack : Array Nat := #[]
  active : Array Formatting := #[]
  mode : Mode := .initial
  original : Mode := .inBody
  templateModes : List Mode := []
  head : Option Nat := none
  form : Option Nat := none
  framesetOk : Bool := true
  quirks : Bool := false
  foster : Bool := false
  tableText : Array String := #[]
  skipNewline : Bool := false
  fragment : Bool := false
  lex : LexContext := {}
  pending : List String := []

/-- What a step of tree building leaves: the state, and a token to process again. -/
inductive Outcome where
  | done (b : Builder)
  | again (b : Builder) (t : Token)

def Outcome.map (f : Builder → Builder) : Outcome → Outcome
  | .done b => .done (f b)
  | .again b t => .again (f b) t

/-- Where a node is inserted: as the last child of a node, or before a table. -/
inductive Place where
  | lastChild (parent : Nat)
  | foster (table below : Nat)

/-- Where the formatting element made again in the repair of misnesting goes in the list. -/
inductive Bookmark where
  | replace (id : Nat)
  | after (id : Nat)

def isSpaceText (s : String) : Bool := s.toList.all isSpace

namespace Builder

def item (b : Builder) (id : Nat) : Item := b.doc.get id

def isNamed (b : Builder) (id : Nat) (name : String) : Bool :=
  let it := b.item id
  it.kind == .element && it.space == .html && it.name == name

def isIn (b : Builder) (id : Nat) (names : List String) : Bool :=
  let it := b.item id
  it.kind == .element && it.space == .html && names.contains it.name

def current (b : Builder) : Nat := b.stack.back?.getD 0

def currentIs (b : Builder) (name : String) : Bool := !b.stack.isEmpty && b.isNamed b.current name

/-- The namespace and name of the adjusted current node: a fragment's context at the root. -/
def adjustedCurrent (b : Builder) : Space × String :=
  if b.fragment && b.stack.size == 1 then (.html, "body")
  else let it := b.item b.current; (it.space, it.name)

def hasOpen (b : Builder) (name : String) : Bool := b.stack.any (b.isNamed · name)

/-- Whether an open element satisfying `p` is reached from the current node before a scope bound. -/
def inScopeWhere (b : Builder) (scope : Scope) (p : Nat → Bool) : Bool :=
  go b.stack.size
where
  go : Nat → Bool
    | 0 => false
    | i + 1 =>
      let id := b.stack.getD i 0
      if p id then true
      else
        let it := b.item id
        if scope.bounds it.space it.name then false else go i

def inScope (b : Builder) (scope : Scope) (name : String) : Bool :=
  b.inScopeWhere scope (b.isNamed · name)

def pop (b : Builder) : Builder := { b with stack := b.stack.pop }

def lastIndexWhere (b : Builder) (p : Nat → Bool) : Option Nat :=
  go b.stack.size
where
  go : Nat → Option Nat
    | 0 => none
    | i + 1 => if p (b.stack.getD i 0) then some i else go i

def popUntil (b : Builder) (p : Nat → Bool) : Builder :=
  { b with stack := b.stack.take ((b.lastIndexWhere p).getD 0) }

def popUntilNamed (b : Builder) (name : String) : Builder := b.popUntil (b.isNamed · name)

def popWhile (b : Builder) (p : Nat → Bool) : Builder :=
  go b.stack.size b
where
  go : Nat → Builder → Builder
    | 0, b => b
    | n + 1, b => if !b.stack.isEmpty && p b.current then go n b.pop else b

def clearBackTo (b : Builder) (names : List String) : Builder := b.popWhile fun id => !b.isIn id names

def removeFromStack (b : Builder) (id : Nat) : Builder := { b with stack := b.stack.filter (· != id) }

/-- Pops elements whose end tags are implied, except those with the name `keep`. -/
def generateImplied (b : Builder) (keep : String) : Builder :=
  b.popWhile fun id => b.isIn id impliedEndTags && !b.isNamed id keep

def generateAllImplied (b : Builder) : Builder := b.popWhile (b.isIn · allImpliedEndTags)

def createElement (b : Builder) (sp : Space) (name : String) (attrs : List (String × String)) :
    Builder × Nat :=
  let (doc, id) := b.doc.create { kind := .element, name, space := sp, attrs }
  if sp == .html && name == "template" then
    let (doc, frag) := doc.create { kind := .document }
    let doc := (doc.append id frag).modify id fun it => { it with contents := some frag }
    ({ b with doc }, id)
  else ({ b with doc }, id)

def insertionParent (b : Builder) (id : Nat) : Nat := ((b.item id).contents).getD id

/-- The place for a node inserted at a target, by default the current node, under foster parenting.
-/
def place (b : Builder) (target : Option Nat) : Place :=
  let t := target.getD b.current
  if b.foster && b.isIn t ["table", "tbody", "tfoot", "thead", "tr"] then
    match b.lastIndexWhere fun id => b.isNamed id "template" || b.isNamed id "table" with
    | some i =>
      let el := b.stack.getD i 0
      if b.isNamed el "template" then .lastChild (b.insertionParent el)
      else .foster el (b.stack.getD (i - 1) 0)
    | none => .lastChild (b.stack.getD 0 0)
  else .lastChild (b.insertionParent t)

def insertNodeAt (b : Builder) (p : Place) (id : Nat) : Builder :=
  match p with
  | .lastChild parent => { b with doc := b.doc.append parent id }
  | .foster table below =>
    if (b.item table).parent.isSome then { b with doc := b.doc.insertBefore table id }
    else { b with doc := b.doc.append below id }

def insertText (b : Builder) (s : String) : Builder :=
  match b.place none with
  | .lastChild parent => { b with doc := b.doc.appendText parent s }
  | .foster table below =>
    if (b.item table).parent.isSome then { b with doc := b.doc.insertTextBefore table s }
    else { b with doc := b.doc.appendText below s }

def insertComment (b : Builder) (s : String) : Builder :=
  let (doc, id) := b.doc.create { kind := .comment, data := s }
  { b with doc } |>.insertNodeAt (b.place none) id

def appendComment (b : Builder) (parent : Nat) (s : String) : Builder :=
  let (doc, id) := b.doc.create { kind := .comment, data := s }
  { b with doc := doc.append parent id }

def insertElement (b : Builder) (sp : Space) (name : String) (attrs : List (String × String))
    (push : Bool) : Builder × Nat :=
  let (b, id) := b.createElement sp name attrs
  let b := b.insertNodeAt (b.place none) id
  (if push then { b with stack := b.stack.push id } else b, id)

def insertHtml (b : Builder) (name : String) (attrs : List (String × String)) : Builder :=
  (b.insertElement .html name attrs true).1

def insertVoid (b : Builder) (name : String) (attrs : List (String × String)) : Builder :=
  (b.insertElement .html name attrs false).1

def insertRaw (b : Builder) (name : String) (attrs : List (String × String)) (kind : TextKind) :
    Builder :=
  let b := b.insertHtml name attrs
  { b with original := b.mode, mode := .text, lex := { b.lex with kind } }

def closeP (b : Builder) : Builder := (b.generateImplied "p").popUntilNamed "p"

def closePInButtonScope (b : Builder) : Builder :=
  if b.inScope .button "p" then b.closeP else b

def mergeRootAttrs (b : Builder) (attrs : List (String × String)) : Builder :=
  if b.hasOpen "template" then b
  else { b with doc := b.doc.addMissingAttrs (b.stack.getD 0 0) attrs }

def activeIndexOf (b : Builder) (id : Nat) : Option Nat :=
  b.active.findIdx? fun
    | .element e _ => e == id
    | .marker => false

def afterMarker (b : Builder) : List (Nat × Nat × Tag) :=
  go b.active.size
where
  go : Nat → List (Nat × Nat × Tag)
    | 0 => []
    | i + 1 =>
      match b.active[i]? with
      | some (.element id tag) => (i, id, tag) :: go i
      | _ => []

/-- Opens and records a formatting element; of three equal entries the earliest is dropped. -/
def pushFormatting (b : Builder) (tag : Tag) : Builder :=
  let same := b.afterMarker.filter fun (_, _, t) => t.equiv tag
  let b := if 3 ≤ same.length then
      match same.getLast? with
      | some (i, _, _) => { b with active := b.active.eraseIdx! i }
      | none => b
    else b
  let (b, id) := b.insertElement .html tag.name tag.attrs true
  { b with active := b.active.push (.element id tag) }

def isMarkerOrOpen (b : Builder) : Formatting → Bool
  | .marker => true
  | .element id _ => b.stack.contains id

/-- Opens again the formatting elements that were closed while still active. -/
def reconstruct (b : Builder) : Builder :=
  match b.active.back? with
  | none => b
  | some last =>
    if b.isMarkerOrOpen last then b
    else
      let start := rewind b (b.active.size - 1)
      (List.range (b.active.size - start)).foldl (fun b k =>
        let i := start + k
        match b.active[i]? with
        | some (.element _ tag) =>
          let (b, id) := b.insertElement .html tag.name tag.attrs true
          { b with active := b.active.set! i (.element id tag) }
        | _ => b) b
where
  rewind (b : Builder) : Nat → Nat
    | 0 => 0
    | i + 1 =>
      match b.active[i]? with
      | some e => if b.isMarkerOrOpen e then i + 1 else rewind b i
      | none => i + 1

def clearToMarker (b : Builder) : Builder :=
  let i := go b.active.size
  { b with active := b.active.take i }
where
  go : Nat → Nat
    | 0 => 0
    | i + 1 =>
      match b.active[i]? with
      | some .marker => i
      | _ => go i

/-- An end tag without a rule of its own in the body: pops up to the matching open element. -/
def closeElement (b : Builder) (name : String) : Builder :=
  match find b.stack.size with
  | some i => { (b.generateImplied name) with stack := (b.generateImplied name).stack.take i }
  | none => b
where
  find : Nat → Option Nat
    | 0 => none
    | i + 1 =>
      let id := b.stack.getD i 0
      if b.isNamed id name then some i
      else
        let it := b.item id
        if isSpecial it.space it.name then none else find i

def adoptInner (fmt furthest : Nat) :
    Nat → Nat → Nat → Bookmark → Builder → Builder × Nat × Bookmark
  | _, 0, lastNode, bookmark, b => (b, lastNode, bookmark)
  | counter, i + 1, lastNode, bookmark, b =>
    let counter := counter + 1
    let node := b.stack.getD i 0
    if node == fmt then (b, lastNode, bookmark)
    else
      let b := if 3 < counter then
          match b.activeIndexOf node with
          | some k => { b with active := b.active.eraseIdx! k }
          | none => b
        else b
      match b.activeIndexOf node with
      | none => adoptInner fmt furthest counter i lastNode bookmark { b with stack := b.stack.eraseIdx! i }
      | some k =>
        match b.active[k]? with
        | some (.element _ tag) =>
          let (b, fresh) := b.createElement .html tag.name tag.attrs
          let b := { b with stack := b.stack.set! i fresh, active := b.active.set! k (.element fresh tag) }
          let bookmark := if lastNode == furthest then .after fresh else bookmark
          let b := { b with doc := b.doc.append fresh lastNode }
          adoptInner fmt furthest counter i fresh bookmark b
        | _ => (b, lastNode, bookmark)

def adoption (name : String) : Nat → Builder → Builder
  | 0, b => b
  | n + 1, b =>
    match (b.afterMarker.find? fun (_, _, t) => t.name == name) with
    | none => b.closeElement name
    | some (fi, fmt, ftag) =>
      match b.lastIndexWhere (· == fmt) with
      | none => { b with active := b.active.eraseIdx! fi }
      | some si =>
        if !b.inScopeWhere .default (· == fmt) then b
        else
          let furthest := (List.range (b.stack.size - si)).find? fun k =>
            let it := b.item (b.stack.getD (si + k) 0)
            isSpecial it.space it.name
          match furthest with
          | none => { b with stack := b.stack.take si, active := b.active.eraseIdx! fi }
          | some k =>
            let fbi := si + k
            let fb := b.stack.getD fbi 0
            let common := b.stack.getD (si - 1) 0
            let (b, lastNode, bookmark) := adoptInner fmt fb 0 fbi fb (.replace fmt) b
            let b := { b with doc := b.doc.detach lastNode }
            let b := b.insertNodeAt (b.place (some common)) lastNode
            let (b, fresh) := b.createElement .html ftag.name ftag.attrs
            let b := { b with doc := (b.doc.moveChildren fb fresh).append fb fresh }
            let entry := Formatting.element fresh ftag
            let b := match bookmark with
              | .replace old =>
                match b.activeIndexOf old with
                | some j => { b with active := b.active.set! j entry }
                | none => b
              | .after prev =>
                match b.activeIndexOf prev with
                | some j =>
                  let b := { b with active := b.active.insertIdxIfInBounds (j + 1) entry }
                  match b.activeIndexOf fmt with
                  | some o => { b with active := b.active.eraseIdx! o }
                  | none => b
                | none => b
            let b := b.removeFromStack fmt
            let b := match b.stack.findIdx? (· == fb) with
              | some j => { b with stack := b.stack.insertIdxIfInBounds (j + 1) fresh }
              | none => b
            adoption name n b

/-- Repairs misnested formatting for an end tag. -/
def adoptionAgency (b : Builder) (name : String) : Builder :=
  if b.currentIs name && (b.activeIndexOf b.current).isNone then b.pop
  else adoption name 8 b

def resetMode (b : Builder) : Mode :=
  go b.stack.size
where
  go : Nat → Mode
    | 0 => .inBody
    | i + 1 =>
      let last := i == 0
      let it := b.item (b.stack.getD i 0)
      let (sp, name) := if last && b.fragment then (Space.html, "body") else (it.space, it.name)
      if sp != .html then go i
      else match name with
        | "select" =>
          match (b.stack.toList.take i).reverse.find? fun id => b.isNamed id "template" || b.isNamed id "table" with
          | some id => if b.isNamed id "table" then .inSelectInTable else .inSelect
          | none => .inSelect
        | "td" | "th" => if last then go i else .inCell
        | "tr" => .inRow
        | "tbody" | "thead" | "tfoot" => .inTableBody
        | "caption" => .inCaption
        | "colgroup" => .inColumnGroup
        | "table" => .inTable
        | "template" => b.templateModes.head?.getD .inBody
        | "head" => if last then go i else .inHead
        | "body" => .inBody
        | "frameset" => .inFrameset
        | "html" => if b.head.isNone then .beforeHead else .afterHead
        | _ => go i

def body? (b : Builder) : Option Nat :=
  if 2 ≤ b.stack.size then
    let id := b.stack.getD 1 0
    if b.isNamed id "body" then some id else none
  else none

/-- Splits text into its first run, of white space or of other characters, and the rest. -/
def firstRun (b : Builder) (s : String) : Builder × String × Bool :=
  let cs := s.toList
  let space := cs.head?.map isSpace |>.getD false
  let run := cs.takeWhile (isSpace · == space)
  let rest := cs.drop run.length
  let b := if rest.isEmpty then b else { b with pending := b.pending ++ [String.ofList rest] }
  (b, String.ofList run, space)

end Builder

end HtmlMarkdown.Html
