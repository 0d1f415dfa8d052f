namespace HtmlMarkdown

/-- The code points with the Unicode `White_Space` property. -/
def isWhite (c : Char) : Bool :=
  let n := c.val
  (0x09 ≤ n && n ≤ 0x0D) || n == 0x20 || n == 0x85 || n == 0xA0 || n == 0x1680 ||
    (0x2000 ≤ n && n ≤ 0x200A) || n == 0x2028 || n == 0x2029 || n == 0x202F ||
    n == 0x205F || n == 0x3000

/-- Space, tab, line feed, form feed and carriage return: the blanks of markup. -/
def isMarkupBlank (c : Char) : Bool :=
  c == ' ' || c == '\t' || c == '\n' || c == '\x0c' || c == '\r'

def dropWhite (cs : List Char) : List Char := cs.dropWhile isWhite

def dropWhiteEnd (cs : List Char) : List Char := (cs.reverse.dropWhile isWhite).reverse

def stripWhite (cs : List Char) : List Char := dropWhiteEnd (dropWhite cs)

def trimWhite (s : String) : String := String.ofList (stripWhite s.toList)

def trimWhiteStart (s : String) : String := String.ofList (dropWhite s.toList)

def trimWhiteEnd (s : String) : String := String.ofList (dropWhiteEnd s.toList)

def isWhiteText (s : String) : Bool := s.toList.all isWhite

def stripBy (p : Char → Bool) (cs : List Char) : List Char :=
  ((cs.dropWhile p).reverse.dropWhile p).reverse

def dropEndBy (p : Char → Bool) (cs : List Char) : List Char :=
  (cs.reverse.dropWhile p).reverse

theorem isWhite_space : isWhite ' ' = true := by decide

end HtmlMarkdown
