import HtmlMarkdown.Markup.Entity
import HtmlMarkdown.Text.White
import HtmlMarkdown.Text.Lower

namespace HtmlMarkdown

inductive NodeKind where
  | element
  | text
  | comment
  | document
  | fragment
  deriving DecidableEq, Repr

/-- A node of a document tree: its kind, its name (the lowercase tag of an element, `#text` and so
on otherwise), its raw value, its attributes in order and its children. -/
structure Node where
  kind : NodeKind
  name : String
  value : String
  attrs : List (String × String)
  children : List Node
  deriving Repr

instance : Inhabited Node := ⟨⟨.text, "#text", "", [], []⟩⟩

namespace Node

def element (tag : String) (attrs : List (String × String)) (children : List Node) : Node :=
  ⟨.element, lowercase tag, "", attrs, children⟩

def text (value : String) : Node := ⟨.text, "#text", value, [], []⟩

def comment (value : String) : Node := ⟨.comment, "#comment", value, [], []⟩

def document (children : List Node) : Node := ⟨.document, "#document", "", [], children⟩

def fragment (children : List Node) : Node :=
  ⟨.fragment, "#document-fragment", "", [], children⟩

def isElement (n : Node) : Bool := n.kind == .element

def isText (n : Node) : Bool := n.kind == .text

def isComment (n : Node) : Bool := n.kind == .comment

def isTag (n : Node) (tag : String) : Bool := n.isElement && n.name == tag

/-- Whether the node is a text of markup blanks only, or empty. -/
def isBlankText (n : Node) : Bool := n.isText && n.value.toList.all isMarkupBlank

def sameName (a b : String) : Bool := a.toList.map Char.toLower == b.toList.map Char.toLower

/-- The value of the first attribute with this name, ignoring ASCII case. -/
def attr? (n : Node) (name : String) : Option String :=
  (n.attrs.find? fun (k, _) => sameName k name).map (·.2)

def hasAttr (n : Node) (name : String) : Bool := (n.attr? name).isSome

/-- Sets the first attribute with this name, ignoring ASCII case, or adds one at the end. -/
def setAttr (n : Node) (name value : String) : Node :=
  { n with attrs := setIn n.attrs }
where
  setIn : List (String × String) → List (String × String)
    | [] => [(name, value)]
    | (k, v) :: rest => if sameName k name then (k, value) :: rest else (k, v) :: setIn rest

theorem sizeOf_lt_of_mem_children {c n : Node} (h : c ∈ n.children) : sizeOf c < sizeOf n := by
  cases n with
  | mk k nm v a cs =>
    have := List.sizeOf_lt_of_mem h
    simp only [Node.mk.sizeOf_spec] at this ⊢
    omega

def elementChildren (n : Node) : List Node := n.children.filter isElement

/-- The children that render something: all but blank texts. -/
def contentChildren (n : Node) : List Node := n.children.filter fun c => !c.isBlankText

mutual
/-- The first proper descendant, in document order, that satisfies `p`. -/
def findDescendant? (p : Node → Bool) : Node → Option Node
  | ⟨_, _, _, _, cs⟩ => findIn? p cs

def findIn? (p : Node → Bool) : List Node → Option Node
  | [] => none
  | c :: cs => if p c then some c else (findDescendant? p c).or (findIn? p cs)
end

def hasDescendant (n : Node) (tag : String) : Bool := (n.findDescendant? (·.isTag tag)).isSome

mutual
def textContent : Node → String
  | ⟨.text, _, v, _, _⟩ => v
  | ⟨.comment, _, _, _, _⟩ => ""
  | ⟨_, _, _, _, cs⟩ => textContents cs

def textContents : List Node → String
  | [] => ""
  | c :: cs => textContent c ++ textContents cs
end

def innerText (n : Node) : String := decodeEntities n.textContent

mutual
/-- The number of levels of the tree: one for a node without children. -/
def maxDepth : Node → Nat
  | ⟨_, _, _, _, cs⟩ => 1 + maxDepths cs

def maxDepths : List Node → Nat
  | [] => 0
  | c :: cs => max (maxDepth c) (maxDepths cs)
end

theorem maxDepth_eq (n : Node) : n.maxDepth = 1 + maxDepths n.children := by
  cases n
  rfl

noncomputable def stackSize : List (Node × Nat) → Nat
  | [] => 0
  | (n, _) :: stack => sizeOf n + stackSize stack

theorem stackSize_append (xs ys : List (Node × Nat)) :
    stackSize (xs ++ ys) = stackSize xs + stackSize ys := by
  induction xs with
  | nil => rw [List.nil_append, stackSize, Nat.zero_add]
  | cons p xs ih =>
    rw [List.cons_append, stackSize, stackSize, ih, Nat.add_assoc]

theorem stackSize_reverse (xs : List (Node × Nat)) : stackSize xs.reverse = stackSize xs := by
  induction xs with
  | nil => rfl
  | cons p xs ih =>
    rw [List.reverse_cons, stackSize_append, ih, stackSize, stackSize, stackSize, Nat.add_zero,
      Nat.add_comm]

theorem stackSize_children_lt (n : Node) (d : Nat) :
    stackSize (n.children.map (·, d)) < sizeOf n := by
  have hle : ∀ cs : List Node, stackSize (cs.map (·, d)) < sizeOf cs := by
    intro cs
    induction cs with
    | nil => exact Nat.zero_lt_one
    | cons c cs ih =>
      rw [List.map_cons, stackSize, List.cons.sizeOf_spec]
      omega
  cases n with
  | mk k nm v a cs =>
    have := hle cs
    dsimp only
    rw [Node.mk.sizeOf_spec]
    omega

/-- The deepest level met by a walk over trees kept on a stack with their levels, its top first; the
walk never recurses into a tree. -/
def deepestOnStack : List (Node × Nat) → Nat → Nat
  | [], deepest => deepest
  | (n, d) :: stack, deepest =>
    deepestOnStack ((n.children.map (·, d + 1)).reverse ++ stack) (max deepest d)
termination_by stack => stackSize stack
decreasing_by
  simp_wf
  rw [stackSize_append, stackSize_reverse, stackSize]
  have := stackSize_children_lt n (d + 1)
  omega

def maxDepthByStack (n : Node) : Nat := deepestOnStack [(n, 1)] 0

/-- The first node satisfying `p` met by a walk over a stack of trees, the first child on top. -/
def findOnStack (p : Node → Bool) : List Node → Option Node
  | [] => none
  | n :: stack => if p n then some n else findOnStack p (n.children ++ stack)
termination_by stack => stackSize (stack.map (·, 0))
decreasing_by
  rw [List.map_append, stackSize_append, List.map_cons, stackSize]
  have := stackSize_children_lt n 0
  omega

def findDescendantByStack (p : Node → Bool) (n : Node) : Option Node := findOnStack p n.children

def voidTags : List String :=
  ["area", "base", "br", "col", "command", "embed", "hr", "img", "input", "keygen", "link",
    "meta", "param", "source", "track", "wbr"]

def encodeAttributeValue (v : String) : String :=
  String.join (v.toList.map fun c =>
    match c with
    | '&' => "&amp;"
    | '"' => "&quot;"
    | '<' => "&lt;"
    | '>' => "&gt;"
    | c => c.toString)

def attributesText (attrs : List (String × String)) : String :=
  String.join (attrs.map fun (k, v) =>
    if v.isEmpty then " " ++ k else " " ++ k ++ "=\"" ++ encodeAttributeValue v ++ "\"")

mutual
def outerHtml : Node → String
  | ⟨.text, _, v, _, _⟩ => v
  | ⟨.comment, _, v, _, _⟩ => "<!--" ++ v ++ "-->"
  | ⟨.element, tag, _, attrs, cs⟩ =>
    if voidTags.contains tag then "<" ++ tag ++ attributesText attrs ++ ">"
    else "<" ++ tag ++ attributesText attrs ++ ">" ++ outerHtmls cs ++ "</" ++ tag ++ ">"
  | ⟨_, _, _, _, cs⟩ => outerHtmls cs

def outerHtmls : List Node → String
  | [] => ""
  | c :: cs => outerHtml c ++ outerHtmls cs
end

mutual
/-- The child positions leading to the first proper descendant, in document order, satisfying `p`.
-/
def firstPath? (p : Node → Bool) : Node → Option (List Nat)
  | ⟨_, _, _, _, cs⟩ => firstPathIn? p 0 cs

def firstPathIn? (p : Node → Bool) (i : Nat) : List Node → Option (List Nat)
  | [] => none
  | c :: cs =>
    if p c then some [i] else ((firstPath? p c).map (i :: ·)).or (firstPathIn? p (i + 1) cs)
end

def innerHtml (n : Node) : String := outerHtmls n.children

end Node

end HtmlMarkdown
