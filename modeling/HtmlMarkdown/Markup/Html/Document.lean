import HtmlMarkdown.Markup.Node

namespace HtmlMarkdown.Html

inductive Space where
  | html
  | svg
  | mathml
  deriving DecidableEq

inductive ItemKind where
  | document
  | element
  | text
  | comment
  deriving DecidableEq

structure Item where
  kind : ItemKind
  name : String := ""
  space : Space := .html
  attrs : List (String × String) := []
  data : String := ""
  children : Array Nat := #[]
  parent : Option Nat := none
  contents : Option Nat := none

instance : Inhabited Item := ⟨{ kind := .document }⟩

/-- A node of a parsed document read back as a tree. -/
inductive Parsed where
  | element (name : String) (attrs : List (String × String)) (children : List Parsed)
  | text (data : String)
  | comment (data : String)
  | other

/-- A document under construction: its nodes by number, the document itself first. -/
structure Document where
  items : Array Item := #[{ kind := .document }]

namespace Document

def get (doc : Document) (id : Nat) : Item := doc.items.getD id default

def modify (doc : Document) (id : Nat) (f : Item → Item) : Document :=
  { items := doc.items.modify id f }

def create (doc : Document) (it : Item) : Document × Nat :=
  ({ items := doc.items.push it }, doc.items.size)

def detach (doc : Document) (id : Nat) : Document :=
  match (doc.get id).parent with
  | none => doc
  | some p =>
    let doc := doc.modify p fun it => { it with children := it.children.filter (· != id) }
    doc.modify id fun it => { it with parent := none }

def append (doc : Document) (parent child : Nat) : Document :=
  let doc := doc.detach child
  let doc := doc.modify parent fun it => { it with children := it.children.push child }
  doc.modify child fun it => { it with parent := some parent }

def insertBefore (doc : Document) (sibling child : Nat) : Document :=
  match (doc.get sibling).parent with
  | none => doc
  | some _ =>
    let doc := doc.detach child
    match (doc.get sibling).parent with
    | none => doc
    | some p =>
      let doc := doc.modify p fun it =>
        let i := (it.children.findIdx? (· == sibling)).getD it.children.size
        { it with children := it.children.insertIdxIfInBounds i child }
      doc.modify child fun it => { it with parent := some p }

/-- Appends text to a parent: to its last child when that is text, else as a new child. -/
def appendText (doc : Document) (parent : Nat) (s : String) : Document :=
  match (doc.get parent).children.back? with
  | some last =>
    if (doc.get last).kind == .text then doc.modify last fun it => { it with data := it.data ++ s }
    else
      let (doc, t) := doc.create { kind := .text, data := s }
      doc.append parent t
  | none =>
    let (doc, t) := doc.create { kind := .text, data := s }
    doc.append parent t

/-- Puts text just before a sibling: onto the text before it, if any, else as a new node. -/
def insertTextBefore (doc : Document) (sibling : Nat) (s : String) : Document :=
  match (doc.get sibling).parent with
  | none => doc
  | some p =>
    let siblings := (doc.get p).children
    let i := (siblings.findIdx? (· == sibling)).getD 0
    match (if i = 0 then none else siblings[i - 1]?) with
    | some prev =>
      if (doc.get prev).kind == .text then doc.modify prev fun it => { it with data := it.data ++ s }
      else
        let (doc, t) := doc.create { kind := .text, data := s }
        doc.insertBefore sibling t
    | none =>
      let (doc, t) := doc.create { kind := .text, data := s }
      doc.insertBefore sibling t

def moveChildren (doc : Document) (src dst : Nat) : Document :=
  (doc.get src).children.foldl (fun doc c => doc.append dst c) doc

def addMissingAttrs (doc : Document) (id : Nat) (attrs : List (String × String)) : Document :=
  doc.modify id fun it =>
    { it with attrs := attrs.foldl (fun acc (k, v) =>
        if acc.any (·.1 == k) then acc else acc ++ [(k, v)]) it.attrs }

/-- The number of nodes, a bound on the depth of the tree. -/
def size (doc : Document) : Nat := doc.items.size

/-- The children of a node, read back as trees; `fuel` bounds the levels read. -/
def parsedChildren (doc : Document) : Nat → Nat → List Parsed
  | 0, _ => []
  | fuel + 1, id => (doc.get id).children.toList.map fun c =>
    let ch := doc.get c
    match ch.kind with
    | .element => .element ch.name ch.attrs (doc.parsedChildren fuel c)
    | .text => .text ch.data
    | .comment => .comment ch.data
    | .document => .other

end Document

end HtmlMarkdown.Html
