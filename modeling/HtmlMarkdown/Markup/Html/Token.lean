import HtmlMarkdown.Text.White

namespace HtmlMarkdown.Html

structure Doctype where
  name : Option String := none
  publicId : Option String := none
  systemId : Option String := none
  forceQuirks : Bool := false

/-- A token of HTML markup; a line feed, a NUL or a decoded reference is a text token of its own. -/
inductive Token where
  | doctype (d : Doctype)
  | startTag (name : String) (attrs : List (String × String)) (selfClosing : Bool)
  | endTag (name : String)
  | comment (data : String)
  | text (data : String)
  | eof

/-- How the tokenizer reads what follows: markup, text up to an end tag, script text, or plain text.
-/
inductive TextKind where
  | data
  | rcdata
  | rawtext
  | script
  | plaintext
  deriving DecidableEq

def Token.isTag : Token → Bool
  | .startTag .. | .endTag _ => true
  | _ => false

def isSpace (c : Char) : Bool := isMarkupBlank c

def lowerAscii (c : Char) : Char := if c.isUpper then c.toLower else c

def lowerAsciiText (s : String) : String := String.ofList (s.toList.map lowerAscii)

end HtmlMarkdown.Html
