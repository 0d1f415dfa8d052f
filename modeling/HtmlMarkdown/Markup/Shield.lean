import HtmlMarkdown.Text.Replace

namespace HtmlMarkdown

def ltShield : Char := Char.ofNat 0xE000

def gtShield : Char := Char.ofNat 0xE001

def ltReferences : List String := ["&lt;", "&LT;", "&#60;", "&#x3c;", "&#x3C;"]

def gtReferences : List String := ["&gt;", "&GT;", "&#62;", "&#x3e;", "&#x3E;"]

/-- Replaces the references to angle brackets by their placeholders. -/
def shieldBrackets (s : String) : String :=
  let s := ltReferences.foldl (fun s e => replaceText e ltShield.toString s) s
  gtReferences.foldl (fun s e => replaceText e gtShield.toString s) s

def unshieldAsReferences (s : String) : String :=
  replaceText gtShield.toString "&gt;" (replaceText ltShield.toString "&lt;" s)

def unshieldAsBrackets (s : String) : String :=
  replaceText gtShield.toString ">" (replaceText ltShield.toString "<" s)

end HtmlMarkdown
