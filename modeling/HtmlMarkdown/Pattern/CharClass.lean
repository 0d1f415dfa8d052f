import HtmlMarkdown.Text.WordClass
import HtmlMarkdown.Text.White
import HtmlMarkdown.Text.CaseFold

namespace HtmlMarkdown.Pattern

/-- A set of characters. -/
inductive CharClass where
  | ranges (rs : List (Nat × Nat))
  | table (t : Array (Nat × Nat))
  | word
  | digit
  | white
  | union (a b : CharClass)
  | inter (a b : CharClass)
  | diff (a b : CharClass)
  | symdiff (a b : CharClass)
  | complement (a : CharClass)
  | caseFold (a : CharClass)
  deriving Inhabited

def CharClass.contains : CharClass → Char → Bool
  | .ranges rs, c => rs.any fun (lo, hi) => lo ≤ c.toNat && c.toNat ≤ hi
  | .table t, c => inRanges t c.toNat
  | .word, c => isWordChar c
  | .digit, c => isDecimalDigit c
  | .white, c => isWhite c
  | .union a b, c => a.contains c || b.contains c
  | .inter a b, c => a.contains c && b.contains c
  | .diff a b, c => a.contains c && !b.contains c
  | .symdiff a b, c => a.contains c != b.contains c
  | .complement a, c => !a.contains c
  | .caseFold a, c => (caseFoldClass c).any fun d => a.contains d

def CharClass.single (c : Char) : CharClass := .ranges [(c.toNat, c.toNat)]

def CharClass.any : CharClass := .ranges [(0, 0x10FFFF)]

def CharClass.ascii : CharClass := .ranges [(0, 0x7F)]

def CharClass.unionAll : List CharClass → CharClass
  | [] => .ranges []
  | [c] => c
  | c :: cs => .union c (unionAll cs)

def asciiWordClass : CharClass := .ranges [(48, 57), (65, 90), (95, 95), (97, 122)]

def asciiDigitClass : CharClass := .ranges [(48, 57)]

def asciiWhiteClass : CharClass := .ranges [(9, 13), (32, 32)]

end HtmlMarkdown.Pattern
