import HtmlMarkdown.Convert.Inline
import HtmlMarkdown.Text.Lines

namespace HtmlMarkdown

def isCellTag (t : Option String) : Bool := t == some "td" || t == some "th"

/-- A line feed before a block, or nothing when it opens a table cell. -/
def cellPrefix (c : Cursor) : String :=
  if isCellTag c.parentTag? && c.isFirstContentChild then "" else "\n"

def cellSuffix (c : Cursor) : String :=
  if isCellTag c.parentTag? && c.isLastContentChild then "" else "\n"

/-- Content trimmed where the layout allows, else only stripped of surrounding line breaks. -/
def trimBlock (o : Options) (c : Cursor) (content : String) : String :=
  if (resolveLayout o c).canTrim then trimWhite content
  else String.ofList (stripBy (fun ch => ch == '\n' || ch == '\r') content.toList)

def quoteLines (content : String) : String :=
  "\n".intercalate ((lines content).map fun l => if isWhiteText l then ">" else "> " ++ l)

def spaces (n : Nat) : String := String.ofList (List.replicate n ' ')

def hangingIndent (width : Nat) (content : String) : String :=
  let cs := content.toList
  match cs.dropWhile (· != '\n') with
  | [] => content
  | _ :: rest =>
    String.ofList (cs.takeWhile (· != '\n')) ++ "\n" ++ indent (String.ofList rest) (spaces width) false

def classLanguage : List Char → Option String
  | [] => none
  | c :: rest =>
    let cs := c :: rest
    let name (r : List Char) : Option String :=
      let n := r.takeWhile Char.isAlphanum
      if n.isEmpty then none else some (String.ofList n)
    let after (p : String) : Option String :=
      if p.toList.isPrefixOf cs then name (cs.drop p.length) else none
    let brush : Option String :=
      match cs with
      | 'b' :: 'r' :: 'u' :: 's' :: 'h' :: ':' :: w :: r => if isWhite w then name r else none
      | _ => none
    ((((after "highlight-source-").or (after "language-")).or (after "highlight-")).or brush).or
      (classLanguage rest)

def nodeLanguage (n : Node) : Option String := (n.attr? "class").bind (classLanguage ·.toList)

/-- The fence language of a code block: a hint on it, its parent or its first `code` child, else the
default. -/
def codeLanguage (o : Options) (c : Cursor) : String :=
  let codeChild := c.node.elementChildren.find? (·.isTag "code")
  let hint := ((nodeLanguage c.node).or (c.parent?.bind (nodeLanguage ·.node))).or
    (codeChild.bind nodeLanguage)
  match hint with
  | some l => o.codeLanguage l
  | none => o.defaultCodeLanguage.getD ""

/-- A code block: fenced with its language in GitHub Markdown, else indented by four spaces. -/
def codeBlockFragment (o : Options) (c : Cursor) : Fragment :=
  let code := c.innerText
  let content :=
    if o.githubFlavored then
      "```" ++ codeLanguage o c ++ "\n" ++ trimWhiteEnd code ++ "\n```"
    else
      let indented := indent code "    " true
      if indented.isEmpty then
        let extra := match c.ancestor? "li" with
          | some li => spaces (markerWidth o li)
          | none => ""
        "    " ++ extra ++ "\n"
      else indented ++ "\n"
  ⟨"\n\n", content, "\n"⟩

def readLevel? (cs : List Char) : Option Nat :=
  let ds := match cs with
    | '+' :: r => r
    | r => r
  if ds.isEmpty || !ds.all Char.isDigit then none
  else
    let n := ds.foldl (fun acc d => acc * 10 + (d.toNat - '0'.toNat)) 0
    if n < 18446744073709551616 then some n else none

def headingLevel (tag : String) : Nat :=
  let n := match tag.toList with
    | 'h' :: rest => (readLevel? rest).getD 1
    | _ => 1
  min 6 (max 1 n)

/-- A heading from its converted content, on one line; nothing when the content is white. -/
def headingFragment (c : Cursor) (converted : String) : Fragment :=
  let content := trimWhite converted
  if content.isEmpty then {}
  else
    let oneLine := " ".intercalate ((lines content).map trimWhite)
    ⟨"\n" ++ String.ofList (List.replicate (headingLevel c.tag) '#') ++ " ", oneLine, "\n"⟩

end HtmlMarkdown
