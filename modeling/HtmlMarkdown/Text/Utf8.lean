import HtmlMarkdown.Text.CodePoints

namespace HtmlMarkdown

def utf8Length (n : Nat) : Nat :=
  if n < 0x80 then 1 else if n < 0x800 then 2 else if n < 0x10000 then 3 else 4

def utf8Bytes (n : Nat) : List Nat :=
  if n < 0x80 then [n]
  else if n < 0x800 then [0xC0 + n / 64, 0x80 + n % 64]
  else if n < 0x10000 then [0xE0 + n / 4096, 0x80 + n / 64 % 64, 0x80 + n % 64]
  else [0xF0 + n / 262144, 0x80 + n / 4096 % 64, 0x80 + n / 64 % 64, 0x80 + n % 64]

def utf8Encode (cs : List Char) : List Nat := cs.flatMap fun c => utf8Bytes c.toNat

def continuesIn (lo hi b : Nat) : Bool := lo ≤ b && b ≤ hi

/-- The characters a byte sequence encodes in UTF-8, or none when it is not well formed. -/
def decodeUtf8 : List Nat → Option (List Char)
  | [] => some []
  | b :: rest =>
    if b < 0x80 then (decodeUtf8 rest).map (Char.ofNat b :: ·)
    else
      match rest with
      | [] => none
      | c1 :: rest1 =>
        if 0xC2 ≤ b && b ≤ 0xDF then
          if continuesIn 0x80 0xBF c1 then
            (decodeUtf8 rest1).map (Char.ofNat ((b - 0xC0) * 64 + (c1 - 0x80)) :: ·)
          else none
        else
          match rest1 with
          | [] => none
          | c2 :: rest2 =>
            if 0xE0 ≤ b && b ≤ 0xEF then
              let lo := if b == 0xE0 then 0xA0 else 0x80
              let hi := if b == 0xED then 0x9F else 0xBF
              if continuesIn lo hi c1 && continuesIn 0x80 0xBF c2 then
                (decodeUtf8 rest2).map
                  (Char.ofNat ((b - 0xE0) * 4096 + (c1 - 0x80) * 64 + (c2 - 0x80)) :: ·)
              else none
            else
              match rest2 with
              | [] => none
              | c3 :: rest3 =>
                if 0xF0 ≤ b && b ≤ 0xF4 then
                  let lo := if b == 0xF0 then 0x90 else 0x80
                  let hi := if b == 0xF4 then 0x8F else 0xBF
                  if continuesIn lo hi c1 && continuesIn 0x80 0xBF c2 &&
                      continuesIn 0x80 0xBF c3 then
                    (decodeUtf8 rest3).map (Char.ofNat ((b - 0xF0) * 262144 + (c1 - 0x80) * 4096 +
                      (c2 - 0x80) * 64 + (c3 - 0x80)) :: ·)
                  else none
                else none

example : decodeUtf8 [0x61, 0xC3, 0xA9] = some ['a', 'é'] := by decide

example : decodeUtf8 [0xFF] = none := by decide

end HtmlMarkdown
