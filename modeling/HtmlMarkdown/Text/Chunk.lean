import HtmlMarkdown.Text.White
import HtmlMarkdown.Text.Error

namespace HtmlMarkdown

inductive ChunkKind where
  | word
  | link
  | code
  | shortcode
  | shortcodeToken
  deriving DecidableEq, Repr

/-- A piece of a line that wrapping keeps on one line. -/
structure Chunk where
  kind : ChunkKind
  text : String
  deriving DecidableEq, Repr

def Chunk.width (c : Chunk) : Nat := c.text.length

/-- How shortcodes are chunked: not recognised, kept whole, or split into their tokens. -/
inductive ShortcodeMode where
  | disabled
  | atomic
  | split
  deriving DecidableEq, Repr

def findSeq? (pat : List Char) : List Char → Option Nat
  | [] => if pat.isEmpty then some 0 else none
  | c :: rest => if pat.isPrefixOf (c :: rest) then some 0 else (findSeq? pat rest).map (· + 1)

def solidLength (cs : List Char) : Nat := (cs.takeWhile fun c => !isWhite c).length

/-- The length of a chunk that ends at `stop` and then takes the non-white characters touching it. -/
def extendSolid (cs : List Char) (stop : Nat) : Nat := stop + solidLength (cs.drop stop)

def linkTail? (ds : List Char) : Option Nat := do
  let i ← findSeq? [']', '('] ds
  let j ← findSeq? [')'] (ds.drop (i + 2))
  pure (i + 2 + j + 1)

/-- The length of a link chunk at the head of `cs`, if one starts there. -/
def linkLength? (cs : List Char) : Option {n : Nat // 0 < n} :=
  (List.range (solidLength cs)).reverse.findSome? fun b =>
    if cs[b]? = some '[' then
      (linkTail? (cs.drop (b + 1))).map fun e =>
        ⟨extendSolid cs (b + 1 + e), by unfold extendSolid; omega⟩
    else none

/-- The length of a code chunk at the head of `cs`: up to the next backtick on the line. -/
def codeLength? (cs : List Char) : Option {n : Nat // 0 < n} := do
  let b ← findSeq? ['`'] (cs.take (solidLength cs))
  let j ← findSeq? ['`'] (cs.drop (b + 1))
  pure ⟨extendSolid cs (b + 1 + j + 1), by unfold extendSolid; omega⟩

/-- The length of a whole shortcode chunk at the head of `cs`, closed by the first ` >}}`. -/
def shortcodeLength? (cs : List Char) : Option {n : Nat // 0 < n} :=
  let k := solidLength cs
  if 3 ≤ k && ['{', '{', '<', ' '].isPrefixOf (cs.drop (k - 3)) then
    (findSeq? [' ', '>', '}', '}'] (cs.drop (k + 1))).map fun i =>
      ⟨extendSolid cs (k + 1 + i + 4), by unfold extendSolid; omega⟩
  else none

def wordLength (rest : List Char) : Nat := 1 + (rest.takeWhile (· != ' ')).length

/-- The kind and length of the chunk that starts with `c`, which is not a space. -/
def nextChunk (recognise : Bool) (c : Char) (rest : List Char) : ChunkKind × {n : Nat // 0 < n} :=
  match linkLength? (c :: rest) with
  | some n => (.link, n)
  | none =>
    match codeLength? (c :: rest) with
    | some n => (.code, n)
    | none =>
      match (if recognise then shortcodeLength? (c :: rest) else none) with
      | some n => (.shortcode, n)
      | none => (.word, ⟨wordLength rest, by unfold wordLength; omega⟩)

/-- The chunks of a line without line feeds, before shortcodes are split. -/
def scanChunks (recognise : Bool) : List Char → List Chunk
  | [] => []
  | c :: rest =>
    if c = ' ' then scanChunks recognise rest
    else
      let (kind, ⟨n, _⟩) := nextChunk recognise c rest
      ⟨kind, String.ofList ((c :: rest).take n)⟩ :: scanChunks recognise ((c :: rest).drop n)
termination_by cs => cs.length
decreasing_by all_goals (simp only [List.length_cons, List.length_drop]; omega)

end HtmlMarkdown
