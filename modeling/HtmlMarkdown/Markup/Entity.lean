import HtmlMarkdown.Markup.EntityNames
import HtmlMarkdown.Text.Rest

namespace HtmlMarkdown

set_option maxRecDepth 20000 in
def lookupReference (name : String) : Option (List Nat) :=
  go 0 namedReferences.size
where
  go (lo hi : Nat) : Option (List Nat) :=
    if lo < hi then
      let mid := (lo + hi) / 2
      match namedReferences[mid]? with
      | none => none
      | some (key, value) =>
        if name < key then go lo mid
        else if key < name then go (mid + 1) hi
        else some value
    else none
  termination_by hi - lo

def charsOf (ns : List Nat) : List Char := ns.map Char.ofNat

def decimalValue (ds : List Char) : Nat :=
  ds.foldl (fun acc d => acc * 10 + (d.toNat - '0'.toNat)) 0

def hexValue (ds : List Char) : Nat :=
  ds.foldl (fun acc d => acc * 16 + hexDigitValue d) 0
where
  hexDigitValue (d : Char) : Nat :=
    if d.isDigit then d.toNat - '0'.toNat
    else if 'a' ≤ d && d ≤ 'f' then d.toNat - 'a'.toNat + 10
    else d.toNat - 'A'.toNat + 10

def isHexDigit (c : Char) : Bool := c.isDigit || ('a' ≤ c && c ≤ 'f') || ('A' ≤ c && c ≤ 'F')

def isScalarValue (n : Nat) : Bool := n < 0xD800 || (0xDFFF < n && n ≤ 0x10FFFF)

abbrev Reference (cs : List Char) := Option (List Char × {r : List Char // r.length < cs.length})

def isTextCharacter (n : Nat) : Bool :=
  (n = 9 || n = 10 || n = 12 || n = 13 || 32 ≤ n) && isScalarValue n

def numericReference? (accepts : Char → Bool) (value : List Char → Nat) (rest : List Char) :
    Reference rest :=
  match h : rest.dropWhile accepts with
  | ';' :: after =>
    let ds := rest.takeWhile accepts
    let n := value ds
    if !ds.isEmpty && isTextCharacter n then
      some ([Char.ofNat n], ⟨after, length_lt_of_dropWhile_eq_cons h⟩)
    else none
  | _ => none

/-- Reads a reference after `&` for text; a name for two characters gives the first of them. -/
def textReference? (cs : List Char) : Reference cs :=
  match cs with
  | '#' :: x :: rest =>
    if x = 'x' || x = 'X' then
      (numericReference? isHexDigit hexValue rest).map fun (v, ⟨r, h⟩) =>
        (v, ⟨r, by simp; omega⟩)
    else
      (numericReference? Char.isDigit decimalValue (x :: rest)).map fun (v, ⟨r, h⟩) =>
        (v, ⟨r, by simp at h ⊢; omega⟩)
  | other =>
    match h : other.dropWhile Char.isAlphanum with
    | ';' :: after =>
      let name := other.takeWhile Char.isAlphanum
      if name.isEmpty then none
      else (lookupReference (String.ofList (name ++ [';']))).map fun v =>
        (charsOf (v.take 1), ⟨after, length_lt_of_dropWhile_eq_cons h⟩)
    | _ => none

/-- Decodes the references of a text; an ampersand that starts none is kept. -/
def decodeReferences : List Char → List Char
  | [] => []
  | c :: rest =>
    if c = '&' then
      match textReference? rest with
      | some (value, ⟨after, _⟩) => value ++ decodeReferences after
      | none => '&' :: decodeReferences rest
    else c :: decodeReferences rest
termination_by cs => cs.length
decreasing_by all_goals simp_wf <;> omega

def decodeEntities (s : String) : String := String.ofList (decodeReferences s.toList)

end HtmlMarkdown
