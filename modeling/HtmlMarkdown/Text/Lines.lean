import HtmlMarkdown.Text.White

namespace HtmlMarkdown

/-- A line without its line feed, and without a carriage return before that line feed. -/
def endLine (line : List Char) : List Char :=
  match line.reverse with
  | '\r' :: before => before.reverse
  | _ => line

def splitLinesFrom (cur : List Char) : List Char → List (List Char)
  | [] => if cur.isEmpty then [] else [cur.reverse]
  | c :: rest =>
    if c = '\n' then endLine cur.reverse :: splitLinesFrom [] rest
    else splitLinesFrom (c :: cur) rest

def splitLines (cs : List Char) : List (List Char) := splitLinesFrom [] cs

def lines (s : String) : List String := (splitLines s.toList).map String.ofList

/-- Puts `prefixText` before every line, and before empty ones only when `blankLines` is set. -/
def indent (text : String) (prefixText : String) (blankLines : Bool) : String :=
  "\n".intercalate ((lines text).map fun l =>
    if blankLines || !l.isEmpty then prefixText ++ l else l)

/-- Reads line breaks from the front: their number of line feeds and what follows them. -/
def takeBreaks : List Char → Nat × List Char
  | '\n' :: rest => let (n, r) := takeBreaks rest; (n + 1, r)
  | '\r' :: '\n' :: rest => let (n, r) := takeBreaks rest; (n + 1, r)
  | cs => (0, cs)

def takeBreaksBack : List Char → Nat × List Char
  | '\n' :: '\r' :: rest => let (n, r) := takeBreaksBack rest; (n + 1, r)
  | '\n' :: rest => let (n, r) := takeBreaksBack rest; (n + 1, r)
  | cs => (0, cs)

theorem takeBreaks_count_add_length (cs : List Char) :
    (takeBreaks cs).1 + (takeBreaks cs).2.length ≤ cs.length := by
  induction cs using takeBreaks.induct <;> simp only [takeBreaks] <;> simp_all <;> omega

/-- Replaces every run of three or more line breaks by two line feeds. -/
def collapseInnerBreaks : List Char → List Char
  | [] => []
  | c :: rest =>
    let r := takeBreaks (c :: rest)
    if _ : 3 ≤ r.1 then '\n' :: '\n' :: collapseInnerBreaks r.2
    else c :: collapseInnerBreaks rest
termination_by cs => cs.length
decreasing_by
  · have := takeBreaks_count_add_length (c :: rest)
    simp only [r] at *
    omega
  · simp

/-- At most one line feed at each end, and no more than two line breaks in a row. -/
def collapseBlankLines (text : String) : String :=
  let cs := text.toList
  let (front, afterFront) := takeBreaks cs
  let cs := if 1 < front then '\n' :: afterFront else cs
  let (back, beforeBack) := takeBreaksBack cs.reverse
  let cs := if 1 < back then beforeBack.reverse ++ ['\n'] else cs
  String.ofList (collapseInnerBreaks cs)

end HtmlMarkdown
