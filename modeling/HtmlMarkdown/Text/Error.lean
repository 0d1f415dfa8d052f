namespace HtmlMarkdown

inductive LineOperation where
  | chunking
  | wrapping
  deriving DecidableEq, Repr

def LineOperation.describe : LineOperation → String
  | .chunking => "parse chunks from text"
  | .wrapping => "wrap a text line"

/-- Why a text operation failed. -/
inductive TextError where
  | lineFeed (operation : LineOperation)
  | malformedShortcode (shortcode : String)
  deriving DecidableEq, Repr

def TextError.message : TextError → String
  | .lineFeed op => "Cannot " ++ op.describe ++ " because the text contains a line feed"
  | .malformedShortcode s => "The shortcode (" ++ s ++ ") is invalid"

end HtmlMarkdown
