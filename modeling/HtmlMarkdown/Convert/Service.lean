import HtmlMarkdown.Convert.Render
import HtmlMarkdown.Convert.Whitespace
import HtmlMarkdown.Markup.Html.Parse

namespace HtmlMarkdown

def parseHtml (html : String) (maxDepth : Nat) : Except ConvertError Node :=
  (parseMarkup html maxDepth).mapError fun e => .depthLimitExceeded e.depth e.max

/-- A converter: settings and a registry of rules. -/
structure Service where
  options : Options
  registry : Registry

namespace Service

def withOptions (o : Options) : Service := ⟨o, Registry.builtIn⟩

def register (svc : Service) (tag : String) (rule : Rule) : Service :=
  { svc with registry := svc.registry.register tag rule }

def keep (svc : Service) (tags : List String) : Service :=
  { svc with registry := svc.registry.keep tags }

def remove (svc : Service) (tags : List String) : Service :=
  { svc with registry := svc.registry.remove tags }

def escapeText (svc : Service) (text : String) : String := escape svc.options.escapeRules text

/-- Converts a tree whose depth has been accepted. -/
def render (svc : Service) (n : Node) : Except ConvertError String := do
  let markdown ← Setting.convert ⟨svc.options, svc.registry⟩ (Cursor.root n.normalizeTree)
  pure (if svc.options.collapseBlankLines then collapseBlankLines markdown else markdown)

/-- Converts a tree, refusing one deeper than allowed. -/
def convert (svc : Service) (n : Node) : Except ConvertError String :=
  if svc.options.maxDepth < n.maxDepth then .error (.depthLimitExceeded n.maxDepth svc.options.maxDepth)
  else svc.render n

def convertHtml (svc : Service) (html : String) : Except ConvertError String := do
  svc.render (← parseHtml html svc.options.maxDepth)

end Service

end HtmlMarkdown
