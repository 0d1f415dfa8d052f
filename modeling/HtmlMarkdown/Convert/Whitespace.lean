import HtmlMarkdown.Markup.Node
import HtmlMarkdown.Markup.Block

namespace HtmlMarkdown

/-- Each run of markup blanks as one space; `blank` tells whether a blank came just before. -/
def collapseBlanks (blank : Bool) : List Char → List Char
  | [] => []
  | c :: rest =>
    if isMarkupBlank c then
      if blank then collapseBlanks true rest else ' ' :: collapseBlanks true rest
    else c :: collapseBlanks false rest

def Node.isBlockElement (n : Node) : Bool := n.isElement && isBlockTag n.name

def normalizeValue (value : String) (trimStart trimEnd : Bool) : String :=
  let cs := collapseBlanks false value.toList
  let cs := if trimStart then cs.dropWhile (· == ' ') else cs
  let cs := if trimEnd then dropEndBy (· == ' ') cs else cs
  String.ofList cs

/-- Normalizes the texts below a node outside preformatted content, descending into elements only.
-/
def Node.normalizeWhitespace (inPre : Bool) (n : Node) : Node :=
  let cs := n.children
  let parentIsBlock := n.isBlockElement
  let count := cs.length
  let blockAt (j : Nat) : Bool := (cs[j]?.map Node.isBlockElement).getD false
  { n with children := cs.attach.zipIdx.map fun (⟨c, _⟩, i) =>
      if c.isText then
        if inPre then c
        else
          let trimStart := (0 < i && blockAt (i - 1)) || (parentIsBlock && i == 0)
          let trimEnd := blockAt (i + 1) || (parentIsBlock && i + 1 == count)
          { c with value := normalizeValue c.value trimStart trimEnd }
      else if c.isElement then c.normalizeWhitespace (inPre || c.isTag "pre")
      else c }
termination_by sizeOf n
decreasing_by exact Node.sizeOf_lt_of_mem_children ‹_›

def Node.normalizeTree (n : Node) : Node := n.normalizeWhitespace (n.isTag "pre")

end HtmlMarkdown
