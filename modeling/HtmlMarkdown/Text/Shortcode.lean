import HtmlMarkdown.Text.Chunk
import HtmlMarkdown.Text.Rest

namespace HtmlMarkdown

def isBareChar (c : Char) : Bool := !isWhite c && c != '"' && c != '\''

/-- After an opening quote `q`: the length through the closing quote; a backslash escapes. -/
def quotedLength? (q : Char) : List Char → Option Nat
  | [] => none
  | c :: rest =>
    if c = q then some 1
    else if c = '\\' then
      match rest with
      | [] => none
      | d :: rest' => if d = '\n' then none else (quotedLength? q rest').map (· + 2)
    else (quotedLength? q rest).map (· + 1)

/-- The tokens of a shortcode, left to right; characters that start no token are skipped. -/
def shortcodeTokens : List Char → List (List Char)
  | [] => []
  | c :: rest =>
    if isBareChar c then
      (c :: rest.takeWhile isBareChar) :: shortcodeTokens (rest.dropWhile isBareChar)
    else if c = '"' || c = '\'' then
      match quotedLength? c rest with
      | some n => (c :: rest.take n) :: shortcodeTokens (rest.drop n)
      | none => shortcodeTokens rest
    else shortcodeTokens rest
termination_by cs => cs.length
decreasing_by
  · exact Nat.lt_add_one_of_le (length_dropWhile_le isBareChar rest)
  · exact Nat.lt_add_one_of_le (length_drop_le n rest)
  all_goals exact Nat.lt_add_one _

/-- A token that ends in `=` takes the token after it, unless that one is the last. -/
def glueAssignments : List (List Char) → List (List Char)
  | t :: v :: w :: rest =>
    if t.getLast? = some '=' then (t ++ v) :: glueAssignments (w :: rest)
    else t :: glueAssignments (v :: w :: rest)
  | ts => ts

def solidChars (cs : List Char) : List Char := cs.filter fun c => !isWhite c

/-- The tokens of a shortcode with the closing marker glued to the one before it. -/
def closeTokens (tokens : List (List Char)) : Option (List (List Char)) :=
  match tokens.reverse with
  | close :: last :: first :: before => some ((last ++ ' ' :: close) :: first :: before).reverse
  | _ => none

def mapLast {α : Type} (f : α → α) : List α → List α
  | [] => []
  | [x] => [f x]
  | x :: y :: rest => x :: mapLast f (y :: rest)

/-- Splits a chunk holding a shortcode into tokens, with the text around it on the end tokens. -/
def splitShortcode (span : List Char) : Except TextError (List Chunk) :=
  let whole := Except.ok [⟨.shortcode, String.ofList span⟩]
  match findSeq? ['{', '{', '<'] span with
  | none => whole
  | some start =>
    match findSeq? ['>', '}', '}'] (span.drop start) with
    | none => whole
    | some close =>
      let stop := start + close + 3
      let code := (span.take stop).drop start
      let tokens := shortcodeTokens code
      if solidChars tokens.flatten != solidChars code then whole
      else
        match closeTokens (glueAssignments tokens) with
        | none => .error (.malformedShortcode (String.ofList code))
        | some ts =>
          let framed := mapLast (· ++ span.drop stop) (ts.modifyHead (span.take start ++ ·))
          .ok (framed.map fun t => ⟨.shortcodeToken, String.ofList t⟩)

/-- Replaces each whole shortcode chunk by its tokens. -/
def splitShortcodes : List Chunk → Except TextError (List Chunk)
  | [] => .ok []
  | c :: rest => do
    let here ← if c.kind = .shortcode then splitShortcode c.text.toList else pure [c]
    let later ← splitShortcodes rest
    pure (here ++ later)

/-- The chunks of one line. Fails on a line feed, and on a shortcode that cannot be split. -/
def chunkLine (mode : ShortcodeMode) (line : String) : Except TextError (List Chunk) :=
  if line.toList.contains '\n' then .error (.lineFeed .chunking)
  else
    let chunks := scanChunks (mode != .disabled) line.toList
    if mode = .split then splitShortcodes chunks else .ok chunks

end HtmlMarkdown
