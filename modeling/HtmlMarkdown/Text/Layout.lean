import HtmlMarkdown.Text.Wrap

namespace HtmlMarkdown

/-- How rendered content is finished: trimmed or not, and wrapped to a width or left unbounded. -/
structure Layout where
  canTrim : Bool
  width : Option Nat
  deriving DecidableEq, Repr

def Layout.preserve : Layout := ⟨false, none⟩

def Layout.wrap (l : Layout) (mode : ShortcodeMode) (content : String) : Except TextError String :=
  match l.width with
  | some w => wrapText mode w content
  | none => .ok content

/-- Trims the content when allowed, then wraps it. -/
def Layout.apply (l : Layout) (mode : ShortcodeMode) (content : String) :
    Except TextError String :=
  l.wrap mode (if l.canTrim then trimWhite content else content)

end HtmlMarkdown
