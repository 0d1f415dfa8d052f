import HtmlMarkdown.Text.CodePoints

namespace HtmlMarkdown

/-- The bidirectional classes that domain labels are checked against. -/
inductive BidiClass where
  | leftToRight
  | rightToLeft
  | arabicLetter
  | europeanNumber
  | europeanSeparator
  | europeanTerminator
  | arabicNumber
  | commonSeparator
  | nonspacingMark
  | boundaryNeutral
  | otherNeutral
  | other
  deriving DecidableEq, Repr

def BidiClass.ofCode : Nat → BidiClass
  | 0 => .leftToRight
  | 1 => .rightToLeft
  | 2 => .arabicLetter
  | 3 => .europeanNumber
  | 4 => .europeanSeparator
  | 5 => .europeanTerminator
  | 6 => .arabicNumber
  | 7 => .commonSeparator
  | 8 => .nonspacingMark
  | 9 => .boundaryNeutral
  | 10 => .otherNeutral
  | _ => .other

def bidiRuns : Array (Nat × Nat) :=
  runsOfSteps (tableNumbers ["0 9 9 b 5 9 e b 5 a 2 5 3 a 5 4 1 7 1 4 1 7 2 3 a 7 1 a 6 0 1a a 6 0 1a a 4 9 6 b 1 9",
    "1a 7 1 a 1 5 4 a 4 0 1 a 2 9 1 a 2 5 2 3 2 a 1 0 1 a 3 3 1 0 1 a 5 0 17 a 1 0 1f a 1 0",
    "1c1 a 2 0 7 a e 0 2 a e 0 5 a 9 0 1 a 11 8 70 0 4 a 2 0 8 a 1 0 5 a 2 0 1 a 1 0 6e a 1",
    "0 8c 8 7 0 100 a 1 0 2 a 2 5 1 1 1 8 2d 1 1 8 1 1 1 8 2 1 1 8 2 1 1 8 1 1 38 6 6 a 2 2",
    "1 5 2 2 1 7 1 2 1 a 2 8 b 2 30 8 15 6 a 5 1 6 2 2 3 8 1 2 65 8 7 6 1 a 1 8 6 2 2 8 2 a",
    "1 8 4 2 2 3 a 2 17 8 1 2 1e 8 1b 2 5b 8 b 2 f 1 2b 8 9 1 2 a 4 1 3 8 1 1 18 8 4 1 1 8",
    "9 1 1 8 3 1 1 8 5 1 2b 8 3 1 4 2 30 6 2 2 5 8 9 2 2a 8 18 6 1 8 20 0 37 8 1 0 1 8 1 0",
    "4 8 8 0 4 8 1 0 3 8 7 0 a 8 2 0 1d 8 1 0 3a 8 1 0 4 8 4 0 8 8 1 0 14 8 2 0 e 5 2 0 7 5",
    "1 0 2 8 1 0 2 8 2 0 39 8 1 0 4 8 2 0 4 8 2 0 2 8 3 0 3 8 1 0 1e 8 2 0 3 8 1 0 b 8 2 0",
    "39 8 1 0 4 8 5 0 1 8 2 0 4 8 1 0 14 8 2 0 d 5 1 0 8 8 6 0 1 8 1 0 3a 8 1 0 2 8 1 0 1 8",
    "4 0 8 8 1 0 7 8 2 0 b 8 2 0 1e 8 1 0 3d 8 1 0 c 8 1 0 25 a 6 5 1 a 1 0 5 8 1 0 3 8 1 0",
    "37 8 1 0 1 8 3 0 5 8 3 0 1 8 4 0 7 8 2 0 b 8 2 0 14 a 7 0 2 8 1 0 3a 8 1 0 f 8 2 0 14",
    "8 2 0 1c 8 2 0 39 8 2 0 4 8 4 0 8 8 1 0 14 8 2 0 1d 8 1 0 48 8 1 0 7 8 3 0 1 8 1 0 5a",
    "8 1 0 2 8 7 0 4 5 1 0 7 8 8 0 62 8 1 0 2 8 9 0 b 8 7 0 49 8 2 0 1b 8 1 0 1 8 1 0 1 8 1",
    "a 4 0 33 8 e 0 1 8 5 0 1 8 2 0 5 8 b 0 1 8 24 0 9 8 1 0 66 8 4 0 1 8 6 0 1 8 2 0 2 8 2",
    "0 19 8 2 0 4 8 3 0 10 8 4 0 d 8 1 0 2 8 2 0 6 8 1 0 f 8 1 0 2bf 8 3 0 30 a a 0 66 a 1",
    "0 27f b 1 0 1a a 2 0 75 8 3 0 1d 8 2 0 1e 8 2 0 1e 8 2 0 40 8 2 0 1 8 7 0 8 8 1 0 2 8",
    "b 0 7 5 1 0 1 8 1 0 12 a a 0 6 a b 8 3 9 1 8 1 0 75 8 2 0 22 8 1 0 76 8 3 0 4 8 2 0 9",
    "8 1 0 6 8 3 0 4 a 1 0 3 a 2 0 98 a 22 0 17 8 2 0 2 8 1 0 3a 8 1 0 1 8 7 0 1 8 1 0 1 8",
    "1 0 2 8 8 0 6 8 a 0 2 8 1 0 30 8 1f 0 31 8 4 0 30 8 1 0 1 8 5 0 1 8 1 0 5 8 1 0 b a 2",
    "0 1b 8 9 0 b a 1 8 2 0 20 8 4 0 2 8 2 0 1 8 3 0 38 8 1 0 1 8 2 0 3 8 1 0 1 8 3 0 3a 8",
    "8 0 2 8 2 0 98 8 3 0 1 8 d 0 1 8 7 0 4 8 1 0 6 8 1 0 3 8 2 0 c6 8 40 0 1bd a 1 0 1 a 3",
    "0 b a 3 0 d a 3 0 d a 3 0 d a 2 0 1 b b 9 3 0 1 1 1 a 18 b 7 7 1 5 5 a f 7 1 a 1a b 1",
    "9 6 b 4 9 6 3 1 0 3 3 6 4 2 a 3 0 1 3 a 4 2 a 3 0 11 5 30 8 21 0 f a 2 0 1 a 4 0 1 a 2",
    "0 a a 1 0 1 a 3 0 5 a 6 0 1 a 1 0 1 a 1 0 1 a 1 0 4 5 1 0 b a 2 0 4 a 5 0 5 a 4 0 2 a",
    "10 0 29 a 3 0 4 a 82 4 1 5 1 a 122 0 45 a 1a 0 1 a 94 0 16 a b 0 15 a 28 3 14 0 4e a",
    "1c2 0 1 a 153 0 100 a 274 0 2 a 20 0 1 a 69 0 e5 a 6 0 4 8 3 0 7 a 7 0 7f 8 1 0 60 8",
    "20 a 5e 0 22 a 1a 0 1 a 59 0 c a d6 0 1a a 10 b 1 a 4 0 3 a 19 0 9 8 4 0 2 a 1 0 5 a 2",
    "0 5 a 3 0 59 8 2 a 2 0 3 a 1 0 5a a 1 0 c4 a 26 0 9 a 1 0 2d a 2 0 31 a 10 0 1c a 3 0",
    "32 a f 0 c a 4 0 a7 a 4 0 63 a 2 0 1f a 1 0 19c0 a 40 0 5690 a 37 0 146 a 3 0 5f 8 4 a",
    "1 8 a a 2 0 1e 8 2 0 50 8 2 0 e a 22 0 66 a 1 0 79 8 1 0 3 8 1 0 4 8 1 0 19 8 2 0 1 a",
    "4 8 1 0 b 5 2 0 3a a 4 0 4c 8 2 0 1a 8 12 0 d 8 1 0 26 8 8 0 19 8 b 0 2e 8 3 0 30 8 1",
    "0 2 8 4 0 2 8 2 0 27 8 1 0 43 8 6 0 2 8 2 0 2 8 2 0 c 8 1 0 8 8 1 0 2f 8 1 0 33 8 1 0",
    "1 8 3 0 2 8 2 0 5 8 2 0 1 8 1 0 2a 8 2 0 8 8 1 0 73 a 2 0 79 8 1 0 2 8 1 0 4 8 1 0",
    "4f2f 1 1 8 1 1 a 4 1 1 26 2 1ee a 12 2 7f a 1 9 20 2 d a 3 8 10 a a 0 6 8 10 a 20 7 1",
    "a 1 7 1 0 1 a 1 7 1 a 9 5 1 a 2 4 2 a 3 0 1 a 1 5 2 a 1 0 4 2 8f 9 1 0 1 a 2 5 3 a 5 4",
    "1 7 1 4 1 7 2 3 a 7 1 a 6 0 1a a 6 0 1a a b 0 7a 5 2 a 3 5 2 0 1 a 7 0 1 9 9 a 5 9 2 0",
    "101 a 1 0 3e a 4d 0 3 a d 0 3 a 1 0 5c 8 1 0 e2 8 1 3 1b 0 7a 8 5 0 485 1 11f a 1 1 e1",
    "8 3 1 1 8 2 1 5 8 4 1 28 8 3 1 4 8 1 1 a5 8 2 1 52 a 7 1 1c0 2 24 8 4 2 8 6 a 2 6 1 29",
    "8 5 1 f2 6 1f 1 2c 8 2 1 13 2 3c 8 4 1 30 2 16 8 b 2 1f 1 12 8 4 1 7a 0 1 8 1 0 36 8 f",
    "0 b a 14 0 a 8 1 0 2 8 2 0 a 8 3 0 31 8 4 0 2 8 2 0 7 8 1 0 3d 8 3 0 24 8 5 0 1 8 8 0",
    "3e 8 1 0 c 8 2 0 34 8 9 0 a 8 4 0 2 8 1 0 5f 8 3 0 2 8 1 0 1 8 2 0 6 8 1 0 2 8 1 0 9d",
    "8 1 0 3 8 8 0 15 8 2 0 39 8 2 0 3 8 1 0 25 8 7 0 3 8 5 0 46 8 6 0 d 8 1 0 1 8 1 0 1 8",
    "1 0 1 a 2 0 1 a 2 0 8 8 2 0 55 8 8 0 2 8 3 0 1 8 1 0 17 8 1 0 54 8 6 0 1 8 1 0 4 8 2 0",
    "1 8 2 0 ee 8 4 0 6 8 2 0 1 8 2 0 1b 8 2 0 55 8 8 0 2 8 1 0 1 8 2 0 1f a d 0 3e 8 1 0 1",
    "8 1 0 2 8 6 0 1 8 1 0 65 8 3 0 2 8 4 0 1 8 5 0 103 8 9 0 1 8 2 0 100 8 2 0 1 8 1 0 4 8",
    "1 0 90 8 4 0 2 8 2 0 4 8 1 0 20 8 6 0 2 8 2 0 28 8 6 0 2 8 4 0 8 8 1 0 9 8 6 0 2 8 3 0",
    "2e 8 d 0 1 8 2 0 147 a 1 0 4e 8 7 0 1 8 6 0 54 8 16 0 2 8 7 0 1 8 2 0 1 8 2 0 7a 8 6 0",
    "3 8 1 0 1 8 2 0 1 8 7 0 1 8 1 0 48 8 2 0 3 8 1 0 1 8 1 0 15b 8 2 0 b 8 2 0 34 8 5 0 5",
    "8 1 0 1 8 1 0 17 8 1 0 7a a 8 5 4 a 11 0 144e 8 1 0 6 8 f 0 2cc8 8 c 0 3 8 3 0 9c0 8 5",
    "0 3b 8 7 0 236 a 3 0 1df 8 1 0 3f 8 4 0 4f a 1 0 1 8 1 0 4cb8 8 2 0 1 9 4 0 f5c a f0 0",
    "10 a 1b4 0 4c 8 2e 0 2 8 17 0 220 8 3 0 9 9 8 8 8 0 2 8 7 0 1e 8 4 0 3b a 2 0 15 a 42",
    "8 3 a 1 0 ba a 57 0 384 a 1 0 39 a 1 0 39 a 1 0 39 a 1 0 39 a 1 0 a 3 32 0 200 8 37 0",
    "4 8 32 0 8 8 1 0 e 8 1 0 16 8 5 0 1 8 f 0 550 8 7 0 1 8 11 0 2 8 7 0 1 8 2 0 1 8 5 0",
    "64 8 1 0 a0 8 7 0 177 8 1 0 3d 8 4 0 f 5 1 0 1ec 8 4 0 fe 8 2 0 f a 1 0 200 1 d0 8 7 1",
    "6d 8 7 1 325 2 50 1 40 2 50 1 b0 2 f0 a 2 2 e 1 100 a 2c 0 4 a 64 0 c a f 0 2 a f 0 1",
    "a f 0 1 a 25 0 a 3 b a 5 0 1f a 1 0 3a a 6 0 3d a 1 0 b2 a 6 0 9a a 3d8 0 4 a 11 0 3 a",
    "d 0 3 a 77 0 4 a 5f 0 6 a c 0 4 a 1 0 f a c 0 4 a 38 0 8 a a 0 6 a 28 0 8 a 1e 0 2 a c",
    "0 4 a 2 0 3e a 154 0 c a e 0 2 a d 0 3 a a 0 5 a 38 0 7 a f 0 2 a b 0 6 a 9 0 7 a 93 0",
    "1 a 5c 3 a 0 404 9 2 0 fffe 9 2 0 fffe 9 2 0 fffe 9 2 0 fffe 9 2 0 fffe 9 2 0 fffe 9 2",
    "0 fffe 9 2 0 fffe 9 2 0 fffe 9 2 0 fffe 9 2 0 fffe 9 2 0 fffe 9 102 8 f0 9 e10 0 effe",
    "9 2 0 fffe 9 2 0 fffe 9"]) 0 #[]

def bidiClass (c : Char) : BidiClass :=
  match runIndex bidiRuns c.toNat with
  | some i => BidiClass.ofCode (bidiRuns[i]?.map Prod.snd |>.getD 11)
  | none => .other

end HtmlMarkdown
