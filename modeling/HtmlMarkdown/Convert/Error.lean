import HtmlMarkdown.Text.Error

namespace HtmlMarkdown

/-- Why a conversion failed. -/
inductive ConvertError where
  | text (e : TextError)
  | unknownTag (tag : String)
  | malformedList (tag : String)
  | depthLimitExceeded (depth max : Nat)
  deriving DecidableEq, Repr

def ConvertError.message : ConvertError → String
  | .text e => e.message
  | .unknownTag tag => "Unknown tag: " ++ tag
  | .malformedList tag => "Malformed list: <p> directly inside <" ++ tag ++ ">"
  | .depthLimitExceeded depth max =>
    "HTML nesting depth " ++ toString depth ++ " exceeds maximum allowed depth " ++ toString max

def ConvertError.kind : ConvertError → String
  | .text (.lineFeed _) => "LineFeed"
  | .text (.malformedShortcode _) => "MalformedShortcode"
  | .unknownTag _ => "UnknownTag"
  | .malformedList _ => "MalformedList"
  | .depthLimitExceeded _ _ => "DepthLimitExceeded"

end HtmlMarkdown
