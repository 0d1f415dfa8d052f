import HtmlMarkdown.Text.Escape
import HtmlMarkdown.Markup.Node

namespace HtmlMarkdown

/-- What happens to an element whose tag has no rule. -/
inductive UnknownTags where
  | passThrough
  | drop
  | bypass
  | raise
  deriving DecidableEq, Repr

inductive HeaderRow where
  | firstRow
  | emptyRow
  deriving DecidableEq, Repr

/-- The settings of a conversion. -/
structure Options where
  unknownTags : UnknownTags := .passThrough
  githubFlavored : Bool := false
  bulletMarker : Char := '-'
  emDelimiter : Char := '*'
  hr : String := "* * *"
  defaultCodeLanguage : Option String := none
  codeLanguages : List (String × String) := []
  allowedSchemes : List String := []
  smartHrefs : Bool := false
  headerRow : HeaderRow := .firstRow
  passThroughTags : List String := []
  escapeRules : List EscapeRule := defaultEscapeRules
  collapseBlankLines : Bool := true
  removeComments : Bool := false
  shortcodes : Bool := false
  maxDepth : Nat := 512

namespace Options

/-- Whether links and images may use this scheme: all may when the list is empty. -/
def allowsScheme (o : Options) (scheme : String) : Bool :=
  o.allowedSchemes.isEmpty || o.allowedSchemes.any fun s => Node.sameName s scheme

/-- The fence language for a language named in a class: its mapping, ignoring ASCII case, or itself.
-/
def codeLanguage (o : Options) (name : String) : String :=
  match o.codeLanguages.find? fun (k, _) => Node.sameName k name with
  | some (_, v) => v
  | none => name

def isPassThrough (o : Options) (tag : String) : Bool :=
  o.passThroughTags.any fun t => Node.sameName t tag

def mapLanguage (langs : List (String × String)) (key value : String) : List (String × String) :=
  if langs.any (·.1 == key) then langs.map fun (k, v) => if k == key then (k, value) else (k, v)
  else langs ++ [(key, value)]

end Options

end HtmlMarkdown
