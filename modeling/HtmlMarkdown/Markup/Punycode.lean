import HtmlMarkdown.Text.CodePoints

namespace HtmlMarkdown.Punycode

def wordLimit : Nat := 4294967295

def digitValue (c : Char) : Option Nat :=
  let n := c.toNat
  if 0x61 ≤ n && n ≤ 0x7A then some (n - 0x61)
  else if 0x41 ≤ n && n ≤ 0x5A then some (n - 0x41)
  else if 0x30 ≤ n && n ≤ 0x39 then some (n - 0x30 + 26)
  else none

def threshold (k bias : Nat) : Nat :=
  if k ≤ bias then 1 else if bias + 26 ≤ k then 26 else k - bias

def adaptLoop (delta k : Nat) : Nat × Nat :=
  if 455 < delta then adaptLoop (delta / 35) (k + 36) else (delta, k)
termination_by delta
decreasing_by exact Nat.div_lt_self (by omega) (by omega)

def adapt (delta numpoints : Nat) (firstTime : Bool) : Nat :=
  let d0 := if firstTime then delta / 700 else delta / 2
  let d1 := d0 + d0 / numpoints
  let r := adaptLoop d1 0
  r.2 + 36 * r.1 / (r.1 + 38)

def readDelta (bias : Nat) : List Char → Nat → Nat → Nat → Option (Nat × List Char)
  | [], _, _, _ => none
  | c :: rest, k, w, i =>
    match digitValue c with
    | none => none
    | some d =>
      if wordLimit < d * w || wordLimit < i + d * w then none
      else if d < threshold k bias then some (i + d * w, rest)
      else if wordLimit < w * (36 - threshold k bias) then none
      else readDelta bias rest (k + 36) (w * (36 - threshold k bias)) (i + d * w)

theorem readDelta_length : ∀ (bias : Nat) (l : List Char) (k w i : Nat) (r : Nat × List Char),
    readDelta bias l k w i = some r → r.2.length < l.length
  | _, [], _, _, _, _, h => by simp [readDelta] at h
  | bias, c :: rest, k, w, i, r, h => by
    rw [readDelta] at h
    split at h
    · simp at h
    · split at h
      · simp at h
      · split at h
        · rw [← Option.some.inj h]; simp
        · split at h
          · simp at h
          · have := readDelta_length bias rest (k + 36) _ _ r h
            simp; omega

def insertAll (bias n i : Nat) (out : List Char) : List Char → Option (List Char)
  | [] => some out
  | c :: rest =>
    match hd : readDelta bias (c :: rest) 36 1 i with
    | none => none
    | some (i', rem) =>
      let numpoints := out.length + 1
      let n' := n + i' / numpoints
      let pos := i' % numpoints
      if wordLimit < n' then none
      else if n' < 0xD800 || (0xDFFF < n' && n' < 0x110000) then
        insertAll (adapt (i' - i) numpoints (i == 0)) n' (pos + 1)
          (out.insertIdx pos (Char.ofNat n')) rem
      else none
termination_by l => l.length
decreasing_by
  have := readDelta_length bias (c :: rest) 36 1 i (i', rem) hd
  simpa using this

def splitLastHyphen (input : List Char) : List Char × List Char :=
  match input.reverse.span (fun c => c != '-') with
  | (revTail, []) => ([], revTail.reverse)
  | (revTail, _ :: revHead) => (revHead.reverse, revTail.reverse)

example : splitLastHyphen "a-b-c1".toList = ("a-b".toList, "c1".toList) := by
  decide

/-- The characters a Punycode label (without `xn--`) stands for, or none when it does not decode. -/
def decode (input : List Char) : Option (List Char) :=
  let (basic, ext) := splitLastHyphen input
  if basic.any (fun c => 0x80 ≤ c.toNat) then none
  else insertAll 72 128 0 basic ext

end HtmlMarkdown.Punycode
