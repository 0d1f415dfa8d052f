import HtmlMarkdown.Convert.Block

namespace HtmlMarkdown

def pipeRow (cell : String) (count : Nat) : String :=
  "| " ++ " | ".intercalate (List.replicate count cell) ++ " |\n"

def hasSpans (n : Node) : Bool :=
  (n.findDescendant? fun d => d.hasAttr "colspan" || d.hasAttr "rowspan").isSome

/-- What goes before a table's rows: a blank line, and an empty header row when one is asked for. -/
def tablePrefix (o : Options) (c : Cursor) : String :=
  if o.headerRow == .emptyRow && !c.hasDescendant "th" then
    match c.node.findDescendant? (·.isTag "tr") with
    | some row =>
      let columns := (row.children.filter (·.isTag "td")).length
      "\n\n" ++ pipeRow "<!---->" columns ++ pipeRow "---" columns
    | none => "\n\n"
  else "\n\n"

/-- Whether a row is the first of a table without header cells, under first-row headers. -/
def isImplicitHeader (o : Options) (c : Cursor) : Bool :=
  o.headerRow == .firstRow &&
    match c.ancestors.zipIdx.find? fun (a, _) => a.isTag "table" with
    | some (t, k) =>
      t.node.firstPath? (·.isTag "tr") == some ((c.path.take (k + 1)).map (·.index)).reverse &&
        !t.hasDescendant "th"
    | none => false

def rowFragment (o : Options) (c : Cursor) (converted : String) : Fragment :=
  let content := trimWhiteEnd converted
  if isWhiteText content then {}
  else
    let header := c.node.children.any (·.isTag "th") || isImplicitHeader o c
    let cells := (c.node.children.filter fun n => n.isTag "td" || n.isTag "th").length
    ⟨"|", content, if header then "\n" ++ pipeRow "---" cells else "\n"⟩

/-- A cell from its converted content: one line, line breaks written as `<br>`. -/
def cellFragment (converted : String) : Fragment :=
  ⟨" ", "<br>".intercalate ((lines (trimWhite converted)).map trimWhiteEnd), " |"⟩

end HtmlMarkdown
