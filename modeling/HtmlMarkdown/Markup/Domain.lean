import HtmlMarkdown.Markup.Punycode
import HtmlMarkdown.Text.Bidi
import HtmlMarkdown.Text.Category
import HtmlMarkdown.Text.IdnaMapping
import HtmlMarkdown.Text.Joining
import HtmlMarkdown.Text.Utf8

namespace HtmlMarkdown

def percentDecodeBytes : List Char → List Nat
  | '%' :: a :: b :: rest =>
    match hexValue a, hexValue b with
    | some x, some y => (x * 16 + y) :: percentDecodeBytes rest
    | _, _ => 0x25 :: percentDecodeBytes (a :: b :: rest)
  | c :: rest => utf8Bytes c.toNat ++ percentDecodeBytes rest
  | [] => []
where
  hexValue (c : Char) : Option Nat :=
    if c.isDigit then some (c.toNat - '0'.toNat)
    else if 'a' ≤ c && c ≤ 'f' then some (c.toNat - 'a'.toNat + 10)
    else if 'A' ≤ c && c ≤ 'F' then some (c.toNat - 'A'.toNat + 10)
    else none

def mapDomain : List Char → Option (List Char)
  | [] => some []
  | c :: cs =>
    match idnaStatus c with
    | .valid | .deviation => (mapDomain cs).map (c :: ·)
    | .ignored => mapDomain cs
    | .disallowed => none
    | .mapped target => (mapDomain cs).map (target ++ ·)

def isForbiddenDomainChar (c : Char) : Bool :=
  c.toNat ≤ 0x20 || c.toNat == 0x7F || "%#/:<>?@[\\]^|".toList.contains c

def isIdnaValid (c : Char) : Bool :=
  match idnaStatus c with
  | .valid | .deviation => true
  | _ => false

def labelChars (label : List Char) : Option (List Char) :=
  match label with
  | 'x' :: 'n' :: '-' :: '-' :: rest =>
    if rest.any (fun c => 0x80 ≤ c.toNat) then none
    else
      match Punycode.decode rest with
      | none => none
      | some ds =>
        if ds.isEmpty || ds.all (fun c => c.toNat < 0x80) then none
        else if ds.take 4 == ['x', 'n', '-', '-'] then none
        else if ds.contains '.' || !ds.all isIdnaValid then none
        else some ds
  | _ => some label

def joinersAllowed (before : List Char) : List Char → Bool
  | [] => true
  | c :: after =>
    let afterVirama := before.head?.any isVirama
    let ok :=
      if c == '\u200D' then afterVirama
      else if c == '\u200C' then
        afterVirama ||
          ((before.dropWhile isTransparent).head?.any joinsForward &&
            (after.dropWhile isTransparent).head?.any joinsBackward)
      else true
    ok && joinersAllowed (c :: before) after

def isRightToLeftChar (c : Char) : Bool :=
  match bidiClass c with
  | .rightToLeft | .arabicLetter | .arabicNumber => true
  | _ => false

def leftToRightAllowed : BidiClass → Bool
  | .leftToRight | .europeanNumber | .europeanSeparator | .commonSeparator
  | .europeanTerminator | .otherNeutral | .boundaryNeutral | .nonspacingMark => true
  | _ => false

def rightToLeftAllowed : BidiClass → Bool
  | .rightToLeft | .arabicLetter | .arabicNumber | .europeanNumber | .europeanSeparator
  | .commonSeparator | .europeanTerminator | .otherNeutral | .boundaryNeutral
  | .nonspacingMark => true
  | _ => false

def bidiLabelAllowed (label : List Char) : Bool :=
  let classes := label.map bidiClass
  let last := (classes.reverse.dropWhile (· == .nonspacingMark)).head?
  match classes with
  | [] => true
  | .leftToRight :: rest =>
    rest.all leftToRightAllowed &&
      last.any fun k => k == .leftToRight || k == .europeanNumber
  | .rightToLeft :: rest | .arabicLetter :: rest =>
    rest.all rightToLeftAllowed &&
      last.any (fun k => k == .rightToLeft || k == .arabicLetter || k == .europeanNumber ||
        k == .arabicNumber) &&
      !(rest.contains .europeanNumber && rest.contains .arabicNumber)
  | _ => false

def labelAllowed (label : List Char) : Bool :=
  !(label.head?.any isMark) && joinersAllowed [] label

/-- The domain a host names after IDNA processing, or none when processing refuses it. -/
def processDomain (host : List Char) : Option (List Char) :=
  match decodeUtf8 (percentDecodeBytes host) with
  | none => none
  | some chars =>
    match mapDomain chars with
    | none => none
    | some mapped =>
      if mapped.any isForbiddenDomainChar then none
      else
        match (mapped.splitOn '.').mapM labelChars with
        | none => none
        | some labels =>
          if !labels.all labelAllowed then none
          else if labels.any (·.any isRightToLeftChar) && !labels.all bidiLabelAllowed then none
          else some mapped

end HtmlMarkdown
