import HtmlMarkdown.Markup.Html.Tree
import HtmlMarkdown.Markup.Shield

namespace HtmlMarkdown

structure DepthExceeded where
  depth : Nat
  max : Nat

namespace Html

def normalizeNewlines (acc : Array Char) : List Char → List Char
  | [] => acc.toList
  | '\r' :: '\n' :: rest => normalizeNewlines (acc.push '\n') rest
  | '\r' :: rest => normalizeNewlines (acc.push '\n') rest
  | c :: rest => normalizeNewlines (acc.push c) rest

def parseDocument (s : String) : Builder :=
  Builder.run {} (normalizeNewlines #[] s.toList)

def parseFragment (s : String) : Builder :=
  let b : Builder := { fragment := true, mode := .inBody }
  (b.createRoot []).run (normalizeNewlines #[] s.toList)

def firstElementChild (doc : Document) (id : Nat) (name : Option String) : Option Nat :=
  (doc.get id).children.find? fun c =>
    let it := doc.get c
    it.kind == .element && (name.isNone || (it.space == .html && some it.name == name))

def occursIn (pat : List Char) : List Char → Bool
  | [] => pat.isEmpty
  | c :: rest => pat.isPrefixOf (c :: rest) || occursIn pat rest

/-- Raw text of a parsed text: `&` written as a reference, shielded brackets as references. -/
def rawText (s : String) : String := unshieldAsReferences (replaceText "&" "&amp;" s)

def checkDepth (depth max : Nat) : Except DepthExceeded Unit :=
  if max < depth then .error ⟨depth, max⟩ else pure ()

mutual
/-- The tree of an element found at `depth`, refused when a node below it lies deeper than `max`. -/
def readElement (depth max : Nat) (name : String) (attrs : List (String × String))
    (children : List Parsed) : Except DepthExceeded Node := do
  checkDepth depth max
  let kids ← readChildren depth max children
  pure (Node.element name (attrs.map fun (k, v) => (k, unshieldAsBrackets v)) kids)
termination_by (sizeOf children, 1)

/-- The children of an element found at `depth`, each checked one level deeper. -/
def readChildren (depth max : Nat) : List Parsed → Except DepthExceeded (List Node)
  | [] => pure []
  | .element name attrs cs :: rest => do
    let n ← readElement (depth + 1) max name attrs cs
    let ns ← readChildren depth max rest
    pure (n :: ns)
  | .text data :: rest => do
    checkDepth (depth + 1) max
    let ns ← readChildren depth max rest
    pure (.text (rawText data) :: ns)
  | .comment data :: rest => do
    checkDepth (depth + 1) max
    let ns ← readChildren depth max rest
    pure (.comment (unshieldAsReferences data) :: ns)
  | .other :: rest => readChildren depth max rest
termination_by cs => (sizeOf cs, 0)
decreasing_by
  all_goals simp_wf
  all_goals omega
end

structure Root where
  name : String
  attrs : List (String × String)
  children : List Parsed

/-- Parses markup and finds its root: the body of a document, or the `html` element of a fragment.
-/
def rootOf (html : String) : Root :=
  let shielded := shieldBrackets html
  let isDocument := occursIn "<body".toList (shielded.toList.map lowerAscii)
  let b := if isDocument then parseDocument shielded else parseFragment shielded
  let doc := b.doc
  let root := (firstElementChild doc 0 none).getD 0
  let top := if isDocument then (firstElementChild doc root (some "body")).getD root else root
  let it := doc.get top
  ⟨it.name, it.attrs, doc.parsedChildren doc.size top⟩

end Html

/-- Parses markup into a tree, refusing one deeper than `maxDepth`, where the root counts one. -/
def parseMarkup (html : String) (maxDepth : Nat) : Except DepthExceeded Node :=
  let r := Html.rootOf html
  Html.readElement 1 maxDepth r.name r.attrs r.children

end HtmlMarkdown
