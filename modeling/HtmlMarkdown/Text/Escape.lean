import HtmlMarkdown.Pattern.Search
import HtmlMarkdown.Text.Replace

namespace HtmlMarkdown

/-- The built-in escape rules, in the order they apply. -/
inductive StockEscape where
  | plusItem
  | minusItem
  | looseUnderscore
  | spaceUnderscore
  | leadingUnderscore
  | doubleUnderscore
  | backslashPair
  | backslashDollar
  | backslashPercent
  | backslashAmpersand
  | backslashDot
  | backslashBracket
  | backslashBrace
  | asterisk
  deriving DecidableEq, Repr

def StockEscape.pattern : StockEscape → String
  | .plusItem => "^(\\+ )"
  | .minusItem => "^(- )"
  | .looseUnderscore => "(_[^\\w])"
  | .spaceUnderscore => " _"
  | .leadingUnderscore => "(^_)"
  | .doubleUnderscore => "__"
  | .backslashPair => "(\\\\\\\\)"
  | .backslashDollar => "(\\\\\\$)"
  | .backslashPercent => "(\\\\%)"
  | .backslashAmpersand => "(\\\\&)"
  | .backslashDot => "(\\\\\\.)"
  | .backslashBracket => "(\\\\\\[)"
  | .backslashBrace => "(\\\\\\\x7b)"
  | .asterisk => "(\\*)"

def StockEscape.replacement : StockEscape → String
  | .plusItem => "\\$\x7b1\x7d"
  | .minusItem => "\\$\x7b1\x7d"
  | .looseUnderscore => "\\$\x7b1\x7d"
  | .spaceUnderscore => " \\_"
  | .leadingUnderscore => "\\$\x7b1\x7d"
  | .doubleUnderscore => "\\_\\_"
  | .backslashPair => "\\\\$\x7b1\x7d"
  | .backslashDollar => "\\$\x7b1\x7d"
  | .backslashPercent => "\\$\x7b1\x7d"
  | .backslashAmpersand => "\\$\x7b1\x7d"
  | .backslashDot => "\\$\x7b1\x7d"
  | .backslashBracket => "\\$\x7b1\x7d"
  | .backslashBrace => "\\$\x7b1\x7d"
  | .asterisk => "\\$\x7b1\x7d"

/-- Puts a backslash before every underscore that a non-word character follows. -/
def escapeLooseUnderscores : List Char → List Char
  | [] => []
  | '_' :: d :: rest =>
    if isWordChar d then '_' :: escapeLooseUnderscores (d :: rest)
    else '\\' :: '_' :: d :: escapeLooseUnderscores rest
  | c :: rest => c :: escapeLooseUnderscores rest

def escapeStart (start : List Char) (cs : List Char) : List Char :=
  if start.isPrefixOf cs then '\\' :: cs else cs

def StockEscape.rewrite : StockEscape → List Char → List Char
  | .plusItem => escapeStart ['+', ' ']
  | .minusItem => escapeStart ['-', ' ']
  | .looseUnderscore => escapeLooseUnderscores
  | .spaceUnderscore => replaceSeq ' ' ['_'] [' ', '\\', '_']
  | .leadingUnderscore => escapeStart ['_']
  | .doubleUnderscore => replaceSeq '_' ['_'] ['\\', '_', '\\', '_']
  | .backslashPair => replaceSeq '\\' ['\\'] ['\\', '\\', '\\', '\\']
  | .backslashDollar => replaceSeq '\\' ['$'] ['\\', '\\', '$']
  | .backslashPercent => replaceSeq '\\' ['%'] ['\\', '\\', '%']
  | .backslashAmpersand => replaceSeq '\\' ['&'] ['\\', '\\', '&']
  | .backslashDot => replaceSeq '\\' ['.'] ['\\', '\\', '.']
  | .backslashBracket => replaceSeq '\\' ['['] ['\\', '\\', '[']
  | .backslashBrace => replaceSeq '\\' ['\x7b'] ['\\', '\\', '\x7b']
  | .asterisk => replaceSeq '*' [] ['\\', '*']

def StockEscape.all : List StockEscape :=
  [.plusItem, .minusItem, .looseUnderscore, .spaceUnderscore, .leadingUnderscore,
    .doubleUnderscore, .backslashPair, .backslashDollar, .backslashPercent, .backslashAmpersand,
    .backslashDot, .backslashBracket, .backslashBrace, .asterisk]

/-- An escape rule: a built-in one, or a pattern with a replacement. -/
inductive EscapeRule where
  | stock (r : StockEscape)
  | custom (re : Pattern.Regex) (replacement : String)

def EscapeRule.pattern : EscapeRule → String
  | .stock r => r.pattern
  | .custom re _ => re.source

def EscapeRule.replacement : EscapeRule → String
  | .stock r => r.replacement
  | .custom _ rep => rep

def EscapeRule.apply : EscapeRule → String → String
  | .stock r, s => String.ofList (r.rewrite s.toList)
  | .custom re rep, s => re.replaceAll rep s

def EscapeRule.ofPair (pattern replacement : String) : Option EscapeRule :=
  match Pattern.Regex.compile pattern with
  | .ok re => some (.custom re replacement)
  | .error _ => none

def defaultEscapeRules : List EscapeRule := StockEscape.all.map .stock

/-- Applies the rules in order. -/
def escape (rules : List EscapeRule) (text : String) : String :=
  rules.foldl (fun t r => r.apply t) text

end HtmlMarkdown
