import HtmlMarkdown.Text.CodePoints

namespace HtmlMarkdown

def joinsLeftRanges : Array (Nat × Nat) :=
  unpackRanges ["a872 0 625a 0 9 0 228 0 2ca 0"]

def joinsBothRanges : Array (Nat × Nat) :=
  unpackRanges ["620 0 5 0 1 0 1 4 4 c 1 6 1 1 23 1 8 f 12 25 1 1 9 0 1 0 1 1 28 2 2 0 12 2 5 3 1 8 1 0",
    "1 0 1 1 1f a 3 e 2 3 1 0 2 2 2 5 4a 20 56 4 2 0 1 9 1 0 a 0 1 3 2 0 1d 0 2 4 12 9 5 1",
    "2 5 1 e f3e 0 18 58 e 21 1 0 8f95 31 624e 4 e 3 1 4 1 2 a 3 91 0 1 0 3 2 1 1 1 0 2 0",
    "1c 1 152 20 1 0 19f 1 6b 2 1 10 c 2 1c 3 2 b 2e 0 1 1 4 0 2 1 1 1 1 0 2 0 5 0 d935 43"]

def joinsRightRanges : Array (Nat × Nat) :=
  unpackRanges ["622 3 1 0 1 0 5 3 15 0 28 2 1 2 10 11 26 0 2 8 1 0 1 0 2 1 1 0 18 1 20 0 4 4 4 0 9 0 1",
    "0 1 0 2 0 1d 0 b 2 f 1 4 0 1 1 3 1 c6 0 5 1 1 0 a 0 1 2 e 0 1 1 5 12 b 0 1b 2 1 0 2 1",
    "6 0 1020b 0 1 0 1 1 3 4 a 0 3 0 2 0 a 0 91 0 1 2 3 0 2 0 1 1 1 0 17 3 175 0 19f 0 70 0",
    "20 0 1f 1 3e 2 2 1 2 0 4 1 5 0"]

def transparentRanges : Array (Nat × Nat) :=
  unpackRanges ["ad 0 252 6f 113 6 107 2c 1 0 1 1 1 1 1 0 48 a 1 0 2e 14 10 0 65 6 2 5 2 1 1 3 21 0 1 0",
    "1e 1a 5b a 3a 8 9 0 18 3 1 8 1 2 1 4 2b 2 3b 8 2a 17 1 1f 37 0 1 0 4 7 4 0 3 6 a 1 1d",
    "0 3a 0 4 3 8 0 14 1 1a 0 2 1 39 0 4 1 4 1 2 2 3 0 1e 1 3 0 b 1 39 0 4 4 1 1 4 0 14 1",
    "16 5 1 0 3a 0 2 0 1 3 8 0 7 1 b 1 1e 0 3d 0 c 0 32 0 3 0 37 0 1 2 5 2 1 3 7 1 b 1 1d 0",
    "3a 0 2 0 6 0 5 1 14 1 1c 1 39 1 4 3 8 0 14 1 1d 0 48 0 7 2 1 0 5a 0 2 6 c 7 62 0 2 8 b",
    "6 49 1 1b 0 1 0 1 0 37 d 1 4 1 1 5 a 1 23 9 0 66 3 1 5 1 1 2 1 19 1 4 2 10 3 d 0 2 1 6",
    "0 f 0 2bf 2 3b2 2 1d 1 1e 1 1e 1 40 1 1 6 8 0 2 a 9 0 2d 2 1 0 75 1 22 0 76 2 4 1 9 0",
    "6 2 db 1 2 0 3a 0 1 6 1 0 1 0 2 7 6 9 2 0 30 1e 31 3 30 0 1 4 1 0 5 0 28 8 c 1 20 3 2",
    "1 1 2 38 0 1 1 3 0 1 2 3a 7 2 1 98 2 1 c 1 6 4 0 6 0 3 1 c6 3f 20b 0 2 1 1a 4 31 4 5 5",
    "60 20 bfe 2 8d 0 60 1f 22a 3 6b 1 75d4 3 1 9 20 1 50 1 110 0 3 0 4 0 19 1 5 0 97 1 1a",
    "11 d 0 26 7 19 a 2e 2 30 0 2 3 2 1 27 0 43 5 2 1 2 1 c 0 8 0 2f 0 33 0 1 2 2 1 5 1 1 0",
    "2a 1 8 0 ee 0 2 0 4 0 4f30 0 2e1 f 10 f cf 0 f9 2 201 0 e2 0 95 4 686 2 1 1 5 3 28 2 4",
    "0 a5 1 23d 3 41 4 13d 1 4f 3 46 a 31 3 7b 0 36 e 29 0 2 1 a 2 31 3 2 1 7 0 3d 2 24 4 1",
    "7 3e 0 c 1 34 8 a 3 2 0 5f 2 2 0 1 1 6 0 2 0 9d 0 3 7 15 1 39 1 3 0 25 6 3 4 46 5 d 0",
    "1 0 1 0 e 1 55 7 2 2 1 0 17 0 54 5 1 0 4 1 1 1 ee 3 6 1 1 1 1b 1 55 7 2 0 1 1 6a 0 1 0",
    "2 5 1 0 65 0 1 0 2 3 1 4 103 8 1 1 100 1 1 0 4 0 90 3 2 1 4 0 20 9 28 5 2 3 8 0 9 5 2",
    "2 2e c 1 1 196 6 1 5 1 0 52 15 2 6 1 1 1 1 7a 5 3 0 1 1 1 6 1 0 48 1 3 0 1 0 15b 1 b 1",
    "34 4 5 0 1 0 17 0 14d5 10 6 e 2cc8 b 3 2 9c0 4 3b 6 418 0 3f 3 51 0 4cb8 1 1 3 125c 2d",
    "2 16 220 2 9 f 2 6 1e 3 94 2 7bb 36 4 31 8 0 e 0 16 4 1 e 550 6 1 10 2 6 1 1 1 4 64 0",
    "a0 6 177 0 3d 3 1fc 3 fe 1 2e0 6 6d 7 c16b5 0 1e 5f 80 ef"]

def viramaRanges : Array (Nat × Nat) :=
  unpackRanges ["94d 0 7f 0 7f 0 7f 0 7f 0 7f 0 7f 0 7f 0 6d 1 10 0 7c 0 6f 0 7f 0 c9 0 b4 1 6d9 1 1e 0",
    "9d 0 28d 0 e3 0 65 1 46 1 118b 0 7a86 0 25 0 97 0 8e 0 6c 0 135 0 f6 0 5e51 0 606 0 29",
    "0 e 0 39 0 79 1 8b 0 74 0 b4 0 62 0 80 2 71 0 7f 0 fc 0 7f 0 76 0 74 0 10d 0 103 1 a1",
    "0 53 0 12 0 51 0 1a5 0 104 1 51 0 1a9 1 41ec 0"]

/-- Whether a character joins the character after it: it joins on its left or on both sides. -/
def joinsForward (c : Char) : Bool :=
  inRanges joinsLeftRanges c.toNat || inRanges joinsBothRanges c.toNat

def joinsBackward (c : Char) : Bool :=
  inRanges joinsRightRanges c.toNat || inRanges joinsBothRanges c.toNat

def isTransparent (c : Char) : Bool := inRanges transparentRanges c.toNat

def isVirama (c : Char) : Bool := inRanges viramaRanges c.toNat

end HtmlMarkdown
