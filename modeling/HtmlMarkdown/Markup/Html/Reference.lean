import HtmlMarkdown.Markup.Entity

namespace HtmlMarkdown.Html

def c1Replacement? (n : Nat) : Option Nat :=
  match n with
  | 0x80 => some 0x20AC | 0x82 => some 0x201A | 0x83 => some 0x0192 | 0x84 => some 0x201E
  | 0x85 => some 0x2026 | 0x86 => some 0x2020 | 0x87 => some 0x2021 | 0x88 => some 0x02C6
  | 0x89 => some 0x2030 | 0x8A => some 0x0160 | 0x8B => some 0x2039 | 0x8C => some 0x0152
  | 0x8E => some 0x017D | 0x91 => some 0x2018 | 0x92 => some 0x2019 | 0x93 => some 0x201C
  | 0x94 => some 0x201D | 0x95 => some 0x2022 | 0x96 => some 0x2013 | 0x97 => some 0x2014
  | 0x98 => some 0x02DC | 0x99 => some 0x2122 | 0x9A => some 0x0161 | 0x9B => some 0x203A
  | 0x9C => some 0x0153 | 0x9E => some 0x017E | 0x9F => some 0x0178
  | _ => none

def numericChar (n : Nat) : Char :=
  if n == 0 || 0x10FFFF < n || (0xD800 ≤ n && n ≤ 0xDFFF) then '�'
  else Char.ofNat ((c1Replacement? n).getD n)

def dropSemicolon : List Char → List Char
  | ';' :: rest => rest
  | cs => cs

theorem length_dropSemicolon_le (cs : List Char) : (dropSemicolon cs).length ≤ cs.length := by
  unfold dropSemicolon; split <;> simp

theorem length_dropSemicolon_drop_le (k : Nat) (cs : List Char) :
    (dropSemicolon (cs.drop k)).length ≤ cs.length :=
  Nat.le_trans (length_dropSemicolon_le _) (length_drop_le k cs)

def longestReference? (cs : List Char) : Option (Nat × List Nat) :=
  let run := cs.takeWhile Char.isAlphanum
  let head := run.take 31
  let closed := run.length ≤ 31 && (cs.drop run.length).head? == some ';'
  let withSemicolon :=
    if closed then (lookupReference (String.ofList (head ++ [';']))).map (head.length + 1, ·)
    else none
  withSemicolon.or (go head head.length)
where
  go (name : List Char) : Nat → Option (Nat × List Nat)
    | 0 => none
    | k + 1 =>
      match lookupReference (String.ofList (name.take (k + 1))) with
      | some v => some (k + 1, v)
      | none => go name k

/-- What a reference after `&` gives: its text and the input after it. -/
def readReference (inAttribute : Bool) (cs : List Char) : String × {r : List Char // r.length ≤ cs.length} :=
  match cs with
  | '#' :: x :: rest =>
    if x = 'x' || x = 'X' then
      let digits := rest.takeWhile isHexDigit
      if digits.isEmpty then (String.ofList ['&', '#', x], ⟨rest, Nat.le_succ_of_le (Nat.le_succ _)⟩)
      else
        (String.singleton (numericChar (hexValue digits)), ⟨dropSemicolon (rest.drop digits.length),
          Nat.le_succ_of_le (Nat.le_succ_of_le (length_dropSemicolon_drop_le _ _))⟩)
    else
      let digits := (x :: rest).takeWhile Char.isDigit
      if digits.isEmpty then ("&#", ⟨x :: rest, Nat.le_succ _⟩)
      else
        (String.singleton (numericChar (decimalValue digits)),
          ⟨dropSemicolon ((x :: rest).drop digits.length),
            Nat.le_succ_of_le (length_dropSemicolon_drop_le _ _)⟩)
  | other =>
    match longestReference? other with
    | none => ("&", ⟨other, Nat.le_refl _⟩)
    | some (k, value) =>
      let name := other.take k
      let next := (other.drop k).head?
      let legacy := name.getLast? != some ';'
      let runsOn := match next with
        | some c => c == '=' || c.isAlphanum
        | none => false
      if inAttribute && legacy && runsOn then
        (String.ofList ('&' :: name), ⟨other.drop k, length_drop_le k other⟩)
      else (String.ofList (value.map Char.ofNat), ⟨other.drop k, length_drop_le k other⟩)

end HtmlMarkdown.Html
