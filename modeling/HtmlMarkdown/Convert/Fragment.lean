namespace HtmlMarkdown

/-- The Markdown of one node: prefix, content and suffix. -/
structure Fragment where
  pre : String := ""
  content : String := ""
  post : String := ""
  deriving DecidableEq, Repr

def Fragment.ofContent (content : String) : Fragment := ⟨"", content, ""⟩

def Fragment.render (f : Fragment) : String := f.pre ++ f.content ++ f.post

def Fragment.isEmpty (f : Fragment) : Bool := f == {}

end HtmlMarkdown
