import HtmlMarkdown.Markup.Node

namespace HtmlMarkdown

/-- One level of the way up: the parent and the position of the child in it. -/
structure Step where
  parent : Node
  index : Nat

/-- A node with the way up to the root, nearest level first. -/
structure Cursor where
  node : Node
  path : List Step

namespace Cursor

def root (n : Node) : Cursor := ⟨n, []⟩

def children (c : Cursor) : List Cursor :=
  c.node.children.zipIdx.map fun (ch, i) => ⟨ch, ⟨c.node, i⟩ :: c.path⟩

def child? (c : Cursor) (i : Nat) : Option Cursor :=
  c.node.children[i]?.map fun ch => ⟨ch, ⟨c.node, i⟩ :: c.path⟩

def ancestorsOn : List Step → List Cursor
  | [] => []
  | s :: rest => ⟨s.parent, rest⟩ :: ancestorsOn rest

def ancestors (c : Cursor) : List Cursor := ancestorsOn c.path

def parent? (c : Cursor) : Option Cursor := c.ancestors.head?

def ancestor? (c : Cursor) (tag : String) : Option Cursor := c.ancestors.find? (·.node.isTag tag)

def hasAncestor (c : Cursor) (tag : String) : Bool := c.path.any (·.parent.isTag tag)

def countAncestors (c : Cursor) (tag : String) : Nat := c.path.countP (·.parent.isTag tag)

def parentTag? (c : Cursor) : Option String := c.path.head?.map (·.parent.name)

def siblings (c : Cursor) : List Node :=
  match c.path with
  | [] => []
  | s :: _ => s.parent.children

def index (c : Cursor) : Nat :=
  match c.path with
  | [] => 0
  | s :: _ => s.index

def previousSibling? (c : Cursor) : Option Node :=
  if c.index = 0 then none else c.siblings[c.index - 1]?

def nextSibling? (c : Cursor) : Option Node := c.siblings[c.index + 1]?

def followingSiblings (c : Cursor) : List Node := c.siblings.drop (c.index + 1)

def precedingSiblings (c : Cursor) : List Node := c.siblings.take c.index

/-- Whether nothing that renders comes before this node in its parent. -/
def isFirstContentChild (c : Cursor) : Bool := c.precedingSiblings.all Node.isBlankText

def isLastContentChild (c : Cursor) : Bool := c.followingSiblings.all Node.isBlankText

def tag (c : Cursor) : String := c.node.name

def isTag (c : Cursor) (t : String) : Bool := c.node.isTag t

/-- Whether some proper descendant is an element with this tag. -/
def hasDescendant (c : Cursor) (t : String) : Bool := c.node.hasDescendant t

def innerText (c : Cursor) : String := c.node.innerText

def descend (c : Cursor) : List Nat → Option Cursor
  | [] => some c
  | i :: rest => (c.child? i).bind fun d => d.descend rest

end Cursor

end HtmlMarkdown
