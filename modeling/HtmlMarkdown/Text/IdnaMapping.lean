import HtmlMarkdown.Text.CodePoints

namespace HtmlMarkdown

inductive IdnaStatus where
  | valid
  | deviation
  | ignored
  | disallowed
  | mapped (target : List Char)
  deriving DecidableEq, Repr

/-- The rule of a run of the table: one status, or a mapping of each code point in turn. -/
inductive IdnaRule where
  | all (s : IdnaStatus)
  | shifted (first : Nat)
  deriving Repr

def idnaRunsOf : List Nat → Nat → Array (Nat × IdnaRule) → Array (Nat × IdnaRule)
  | gap :: code :: rest, start, acc =>
    let here := start + gap
    match code with
    | 0 => idnaRunsOf rest here (acc.push (here, .all .valid))
    | 1 => idnaRunsOf rest here (acc.push (here, .all .deviation))
    | 2 => idnaRunsOf rest here (acc.push (here, .all .ignored))
    | 3 => idnaRunsOf rest here (acc.push (here, .all .disallowed))
    | 4 => match rest with
      | first :: more => idnaRunsOf more here (acc.push (here, .shifted first))
      | [] => acc
    | k + 4 =>
      idnaRunsOf (rest.drop k) here (acc.push (here, .all (.mapped ((rest.take k).map Char.ofNat))))
  | _, _, acc => acc
termination_by ns => ns.length
decreasing_by all_goals (simp only [List.length_cons, List.length_drop]; omega)

def idnaRuns : Array (Nat × IdnaRule) :=
  idnaRunsOf (tableNumbers ["0 0 41 4 61 1a 0 25 3 20 4 20 1 0 7 6 20 308 1 0 1 4 61 1 0 2 2 1 0 1 6 20 304 1 0 2 4",
    "32 2 6 20 301 1 4 3bc 1 0 2 6 20 327 1 4 31 1 4 6f 1 0 1 7 31 2044 34 1 7 31 2044 32 1",
    "7 33 2044 34 1 0 1 4 e0 17 0 1 4 f8 7 1 1 0 20 4 101 1 0 1 4 103 1 0 1 4 105 1 0 1 4",
    "107 1 0 1 4 109 1 0 1 4 10b 1 0 1 4 10d 1 0 1 4 10f 1 0 1 4 111 1 0 1 4 113 1 0 1 4",
    "115 1 0 1 4 117 1 0 1 4 119 1 0 1 4 11b 1 0 1 4 11d 1 0 1 4 11f 1 0 1 4 121 1 0 1 4",
    "123 1 0 1 4 125 1 0 1 4 127 1 0 1 4 129 1 0 1 4 12b 1 0 1 4 12d 1 0 1 4 12f 1 0 1 6 69",
    "307 1 0 1 6 69 6a 2 4 135 1 0 1 4 137 1 0 2 4 13a 1 0 1 4 13c 1 0 1 4 13e 1 0 1 6 6c",
    "b7 2 4 142 1 0 1 4 144 1 0 1 4 146 1 0 1 4 148 1 0 1 6 2bc 6e 1 4 14b 1 0 1 4 14d 1 0",
    "1 4 14f 1 0 1 4 151 1 0 1 4 153 1 0 1 4 155 1 0 1 4 157 1 0 1 4 159 1 0 1 4 15b 1 0 1",
    "4 15d 1 0 1 4 15f 1 0 1 4 161 1 0 1 4 163 1 0 1 4 165 1 0 1 4 167 1 0 1 4 169 1 0 1 4",
    "16b 1 0 1 4 16d 1 0 1 4 16f 1 0 1 4 171 1 0 1 4 173 1 0 1 4 175 1 0 1 4 177 1 0 1 4 ff",
    "1 4 17a 1 0 1 4 17c 1 0 1 4 17e 1 0 1 4 73 1 0 1 4 253 1 4 183 1 0 1 4 185 1 0 1 4 254",
    "1 4 188 1 0 1 4 256 2 4 18c 1 0 2 4 1dd 1 4 259 1 4 25b 1 4 192 1 0 1 4 260 1 4 263 1",
    "0 1 4 269 1 4 268 1 4 199 1 0 3 4 26f 1 4 272 1 0 1 4 275 1 4 1a1 1 0 1 4 1a3 1 0 1 4",
    "1a5 1 0 1 4 280 1 4 1a8 1 0 1 4 283 1 0 2 4 1ad 1 0 1 4 288 1 4 1b0 1 0 1 4 28a 2 4",
    "1b4 1 0 1 4 1b6 1 0 1 4 292 1 4 1b9 1 0 3 4 1bd 1 0 7 6 64 17e 3 6 6c 6a 3 6 6e 6a 3 4",
    "1ce 1 0 1 4 1d0 1 0 1 4 1d2 1 0 1 4 1d4 1 0 1 4 1d6 1 0 1 4 1d8 1 0 1 4 1da 1 0 1 4",
    "1dc 1 0 2 4 1df 1 0 1 4 1e1 1 0 1 4 1e3 1 0 1 4 1e5 1 0 1 4 1e7 1 0 1 4 1e9 1 0 1 4",
    "1eb 1 0 1 4 1ed 1 0 1 4 1ef 1 0 2 6 64 7a 3 4 1f5 1 0 1 4 195 1 4 1bf 1 4 1f9 1 0 1 4",
    "1fb 1 0 1 4 1fd 1 0 1 4 1ff 1 0 1 4 201 1 0 1 4 203 1 0 1 4 205 1 0 1 4 207 1 0 1 4",
    "209 1 0 1 4 20b 1 0 1 4 20d 1 0 1 4 20f 1 0 1 4 211 1 0 1 4 213 1 0 1 4 215 1 0 1 4",
    "217 1 0 1 4 219 1 0 1 4 21b 1 0 1 4 21d 1 0 1 4 21f 1 0 1 4 19e 1 0 1 4 223 1 0 1 4",
    "225 1 0 1 4 227 1 0 1 4 229 1 0 1 4 22b 1 0 1 4 22d 1 0 1 4 22f 1 0 1 4 231 1 0 1 4",
    "233 1 0 7 4 2c65 1 4 23c 1 0 1 4 19a 1 4 2c66 1 0 2 4 242 1 0 1 4 180 1 4 289 1 4 28c",
    "1 4 247 1 0 1 4 249 1 0 1 4 24b 1 0 1 4 24d 1 0 1 4 24f 1 0 61 4 68 1 4 266 1 4 6a 1 4",
    "72 1 4 279 1 4 27b 1 4 281 1 4 77 1 4 79 1 0 1f 6 20 306 1 6 20 307 1 6 20 30a 1 6 20",
    "328 1 6 20 303 1 6 20 30b 1 0 2 4 263 1 4 6c 1 4 73 1 4 78 1 4 295 1 0 5b 4 300 2 0 1",
    "4 313 1 6 308 301 1 4 3b9 1 0 9 2 1 0 20 4 371 1 0 1 4 373 1 0 1 4 2b9 1 0 1 4 377 1 0",
    "1 3 2 6 20 3b9 1 0 3 4 3b 1 4 3f3 1 3 4 6 20 301 1 7 20 308 301 1 4 3ac 1 4 b7 1 4 3ad",
    "3 3 1 4 3cc 1 3 1 4 3cd 2 0 1 4 3b1 11 3 1 4 3c3 9 0 16 1 1 0 c 4 3d7 1 4 3b2 1 4 3b8",
    "1 4 3c5 1 4 3cd 1 4 3cb 1 4 3c6 1 4 3c0 1 0 1 4 3d9 1 0 1 4 3db 1 0 1 4 3dd 1 0 1 4",
    "3df 1 0 1 4 3e1 1 0 1 4 3e3 1 0 1 4 3e5 1 0 1 4 3e7 1 0 1 4 3e9 1 0 1 4 3eb 1 0 1 4",
    "3ed 1 0 1 4 3ef 1 0 1 4 3ba 1 4 3c1 1 4 3c3 1 0 1 4 3b8 1 4 3b5 1 0 1 4 3f8 1 0 1 4",
    "3c3 1 4 3fb 1 0 2 4 37b 3 4 450 10 4 430 20 0 30 4 461 1 0 1 4 463 1 0 1 4 465 1 0 1 4",
    "467 1 0 1 4 469 1 0 1 4 46b 1 0 1 4 46d 1 0 1 4 46f 1 0 1 4 471 1 0 1 4 473 1 0 1 4",
    "475 1 0 1 4 477 1 0 1 4 479 1 0 1 4 47b 1 0 1 4 47d 1 0 1 4 47f 1 0 1 4 481 1 0 9 4",
    "48b 1 0 1 4 48d 1 0 1 4 48f 1 0 1 4 491 1 0 1 4 493 1 0 1 4 495 1 0 1 4 497 1 0 1 4",
    "499 1 0 1 4 49b 1 0 1 4 49d 1 0 1 4 49f 1 0 1 4 4a1 1 0 1 4 4a3 1 0 1 4 4a5 1 0 1 4",
    "4a7 1 0 1 4 4a9 1 0 1 4 4ab 1 0 1 4 4ad 1 0 1 4 4af 1 0 1 4 4b1 1 0 1 4 4b3 1 0 1 4",
    "4b5 1 0 1 4 4b7 1 0 1 4 4b9 1 0 1 4 4bb 1 0 1 4 4bd 1 0 1 4 4bf 1 0 1 4 4cf 1 4 4c2 1",
    "0 1 4 4c4 1 0 1 4 4c6 1 0 1 4 4c8 1 0 1 4 4ca 1 0 1 4 4cc 1 0 1 4 4ce 1 0 2 4 4d1 1 0",
    "1 4 4d3 1 0 1 4 4d5 1 0 1 4 4d7 1 0 1 4 4d9 1 0 1 4 4db 1 0 1 4 4dd 1 0 1 4 4df 1 0 1",
    "4 4e1 1 0 1 4 4e3 1 0 1 4 4e5 1 0 1 4 4e7 1 0 1 4 4e9 1 0 1 4 4eb 1 0 1 4 4ed 1 0 1 4",
    "4ef 1 0 1 4 4f1 1 0 1 4 4f3 1 0 1 4 4f5 1 0 1 4 4f7 1 0 1 4 4f9 1 0 1 4 4fb 1 0 1 4",
    "4fd 1 0 1 4 4ff 1 0 1 4 501 1 0 1 4 503 1 0 1 4 505 1 0 1 4 507 1 0 1 4 509 1 0 1 4",
    "50b 1 0 1 4 50d 1 0 1 4 50f 1 0 1 4 511 1 0 1 4 513 1 0 1 4 515 1 0 1 4 517 1 0 1 4",
    "519 1 0 1 4 51b 1 0 1 4 51d 1 0 1 4 51f 1 0 1 4 521 1 0 1 4 523 1 0 1 4 525 1 0 1 4",
    "527 1 0 1 4 529 1 0 1 4 52b 1 0 1 4 52d 1 0 1 4 52f 1 0 1 3 1 4 561 26 3 2 0 2e 6 565",
    "582 1 0 3 3 2 0 3 3 1 0 37 3 8 0 1b 3 4 0 6 3 11 0 16 3 1 0 58 6 627 674 1 6 648 674 1",
    "6 6c7 674 1 6 64a 674 1 0 64 3 1 0 30 3 2 0 3b 3 2 0 65 3 e 0 3b 3 2 0 31 3 2 0 f 3 1",
    "0 1c 3 2 0 1 3 1 0 b 3 5 0 1f 3 8 0 4b 3 1 0 75 6 915 93c 1 6 916 93c 1 6 917 93c 1 6",
    "91c 93c 1 6 921 93c 1 6 922 93c 1 6 92b 93c 1 6 92f 93c 1 0 24 3 1 0 8 3 2 0 2 3 2 0",
    "16 3 1 0 7 3 1 0 1 3 3 0 4 3 2 0 9 3 2 0 2 3 2 0 4 3 8 0 1 3 4 6 9a1 9bc 1 6 9a2 9bc 1",
    "3 1 6 9af 9bc 1 0 4 3 2 0 19 3 2 0 3 3 1 0 6 3 4 0 2 3 2 0 16 3 1 0 7 3 1 0 1 6 a32",
    "a3c 1 3 1 0 1 6 a38 a3c 1 3 1 0 2 3 2 0 1 3 1 0 5 3 4 0 2 3 2 0 3 3 3 0 1 3 7 6 a16",
    "a3c 1 6 a17 a3c 1 6 a1c a3c 1 0 1 3 1 6 a2b a3c 1 3 7 0 11 3 a 0 3 3 1 0 9 3 1 0 3 3 1",
    "0 16 3 1 0 7 3 1 0 2 3 1 0 5 3 2 0 a 3 1 0 3 3 1 0 3 3 2 0 1 3 f 0 4 3 2 0 c 3 7 0 7 3",
    "1 0 3 3 1 0 8 3 2 0 2 3 2 0 16 3 1 0 7 3 1 0 2 3 1 0 5 3 2 0 9 3 2 0 2 3 2 0 3 3 7 0 3",
    "3 4 6 b21 b3c 1 6 b22 b3c 1 3 1 0 5 3 2 0 12 3 a 0 2 3 1 0 6 3 3 0 3 3 1 0 4 3 3 0 2 3",
    "1 0 1 3 1 0 2 3 3 0 2 3 3 0 3 3 3 0 c 3 4 0 5 3 3 0 3 3 1 0 4 3 2 0 1 3 6 0 1 3 e 0 15",
    "3 5 0 d 3 1 0 3 3 1 0 17 3 1 0 10 3 2 0 9 3 1 0 3 3 1 0 4 3 7 0 2 3 1 0 3 3 2 0 1 3 2",
    "0 4 3 2 0 a 3 7 0 16 3 1 0 3 3 1 0 17 3 1 0 a 3 1 0 5 3 2 0 9 3 1 0 3 3 1 0 4 3 7 0 2",
    "3 6 0 2 3 1 0 4 3 2 0 a 3 1 0 3 3 c 0 d 3 1 0 3 3 1 0 33 3 1 0 3 3 1 0 6 3 4 0 10 3 2",
    "0 1a 3 1 0 3 3 1 0 12 3 3 0 18 3 1 0 9 3 1 0 1 3 2 0 7 3 3 0 1 3 4 0 6 3 1 0 1 3 1 0 8",
    "3 6 0 a 3 2 0 3 3 c 0 32 6 e4d e32 1 0 7 3 4 0 1d 3 25 0 2 3 1 0 1 3 1 0 5 3 1 0 18 3",
    "1 0 1 3 1 0 c 6 ecd eb2 1 0 a 3 2 0 5 3 1 0 1 3 1 0 7 3 1 0 a 3 2 6 eab e99 1 6 eab",
    "ea1 1 0 2 3 20 0 c 4 f0b 1 0 36 6 f42 fb7 1 0 4 3 1 0 4 6 f4c fb7 1 0 4 6 f51 fb7 1 0",
    "4 6 f56 fb7 1 0 4 6 f5b fb7 1 0 c 6 f40 fb5 1 0 3 3 4 0 2 6 f71 f72 1 0 1 6 f71 f74 1",
    "6 fb2 f80 1 7 fb2 f71 f80 1 6 fb3 f80 1 7 fb3 f71 f80 1 0 7 6 f71 f80 1 0 11 6 f92 fb7",
    "1 0 4 3 1 0 4 6 f9c fb7 1 0 4 6 fa1 fb7 1 0 4 6 fa6 fb7 1 0 4 6 fab fb7 1 0 c 6 f90",
    "fb5 1 0 3 3 1 0 f 3 1 0 d 3 25 0 a0 4 2d00 26 3 1 4 2d27 1 3 5 4 2d2d 1 3 2 0 2c 4",
    "10dc 1 0 62 2 2 0 e8 3 1 0 4 3 2 0 7 3 1 0 1 3 1 0 4 3 2 0 29 3 1 0 4 3 2 0 21 3 1 0 4",
    "3 2 0 7 3 1 0 1 3 1 0 4 3 2 0 f 3 1 0 39 3 1 0 4 3 2 0 43 3 2 0 20 3 3 0 1a 3 6 0 56 3",
    "2 4 13f0 6 3 2 0 280 3 1 0 1c 3 3 0 59 3 7 0 16 3 9 0 18 3 9 0 14 3 c 0 d 3 1 0 3 3 1",
    "0 2 3 c 0 34 2 2 0 28 3 2 0 a 3 6 0 a 3 6 0 b 2 5 0 a 3 6 0 59 3 7 0 2b 3 5 0 46 3 a 0",
    "1f 3 1 0 c 3 4 0 c 3 4 0 1 3 3 0 2a 3 2 0 5 3 b 0 2c 3 4 0 1a 3 6 0 b 3 3 0 3e 3 2 0",
    "41 3 1 0 1d 3 2 0 b 3 6 0 a 3 6 0 e 3 2 0 1f 3 31 0 4d 3 1 0 a6 3 8 0 3c 3 3 0 f 3 3 0",
    "33 4 432 1 4 434 1 4 43e 1 4 441 1 5 442 2 4 44a 1 4 463 1 4 a64b 1 4 1c8a 1 0 1 3 5 4",
    "10d0 2b 3 2 4 10fd 3 0 8 3 8 0 2b 3 5 0 2c 4 61 1 4 e6 1 4 62 1 0 1 4 64 2 4 1dd 1 4",
    "67 8 0 1 4 6f 1 4 223 1 4 70 1 4 72 1 4 74 2 4 77 1 4 61 1 4 250 2 4 1d02 1 4 62 1 4",
    "64 2 4 259 1 4 25b 2 4 67 1 0 1 4 6b 1 4 6d 1 4 14b 1 4 6f 1 4 254 1 4 1d16 2 4 70 1 4",
    "74 2 4 1d1d 1 4 26f 1 4 76 1 4 1d25 1 4 3b2 3 4 3c6 2 4 69 1 4 72 1 4 75 2 4 3b2 2 4",
    "3c1 1 4 3c6 2 0 d 4 43d 1 0 22 4 252 1 4 63 1 4 255 1 4 f0 1 4 25c 1 4 66 1 4 25f 1 4",
    "261 1 4 265 1 4 268 3 4 1d7b 1 4 29d 1 4 26d 1 4 1d85 1 4 29f 1 4 271 1 4 270 1 4 272",
    "4 4 278 1 4 282 2 4 1ab 1 4 289 2 4 1d1c 1 4 28b 2 4 7a 1 4 290 3 4 3b8 1 0 40 4 1e01",
    "1 0 1 4 1e03 1 0 1 4 1e05 1 0 1 4 1e07 1 0 1 4 1e09 1 0 1 4 1e0b 1 0 1 4 1e0d 1 0 1 4",
    "1e0f 1 0 1 4 1e11 1 0 1 4 1e13 1 0 1 4 1e15 1 0 1 4 1e17 1 0 1 4 1e19 1 0 1 4 1e1b 1 0",
    "1 4 1e1d 1 0 1 4 1e1f 1 0 1 4 1e21 1 0 1 4 1e23 1 0 1 4 1e25 1 0 1 4 1e27 1 0 1 4 1e29",
    "1 0 1 4 1e2b 1 0 1 4 1e2d 1 0 1 4 1e2f 1 0 1 4 1e31 1 0 1 4 1e33 1 0 1 4 1e35 1 0 1 4",
    "1e37 1 0 1 4 1e39 1 0 1 4 1e3b 1 0 1 4 1e3d 1 0 1 4 1e3f 1 0 1 4 1e41 1 0 1 4 1e43 1 0",
    "1 4 1e45 1 0 1 4 1e47 1 0 1 4 1e49 1 0 1 4 1e4b 1 0 1 4 1e4d 1 0 1 4 1e4f 1 0 1 4 1e51",
    "1 0 1 4 1e53 1 0 1 4 1e55 1 0 1 4 1e57 1 0 1 4 1e59 1 0 1 4 1e5b 1 0 1 4 1e5d 1 0 1 4",
    "1e5f 1 0 1 4 1e61 1 0 1 4 1e63 1 0 1 4 1e65 1 0 1 4 1e67 1 0 1 4 1e69 1 0 1 4 1e6b 1 0",
    "1 4 1e6d 1 0 1 4 1e6f 1 0 1 4 1e71 1 0 1 4 1e73 1 0 1 4 1e75 1 0 1 4 1e77 1 0 1 4 1e79",
    "1 0 1 4 1e7b 1 0 1 4 1e7d 1 0 1 4 1e7f 1 0 1 4 1e81 1 0 1 4 1e83 1 0 1 4 1e85 1 0 1 4",
    "1e87 1 0 1 4 1e89 1 0 1 4 1e8b 1 0 1 4 1e8d 1 0 1 4 1e8f 1 0 1 4 1e91 1 0 1 4 1e93 1 0",
    "1 4 1e95 1 0 5 6 61 2be 1 4 1e61 1 0 2 4 df 1 0 1 4 1ea1 1 0 1 4 1ea3 1 0 1 4 1ea5 1 0",
    "1 4 1ea7 1 0 1 4 1ea9 1 0 1 4 1eab 1 0 1 4 1ead 1 0 1 4 1eaf 1 0 1 4 1eb1 1 0 1 4 1eb3",
    "1 0 1 4 1eb5 1 0 1 4 1eb7 1 0 1 4 1eb9 1 0 1 4 1ebb 1 0 1 4 1ebd 1 0 1 4 1ebf 1 0 1 4",
    "1ec1 1 0 1 4 1ec3 1 0 1 4 1ec5 1 0 1 4 1ec7 1 0 1 4 1ec9 1 0 1 4 1ecb 1 0 1 4 1ecd 1 0",
    "1 4 1ecf 1 0 1 4 1ed1 1 0 1 4 1ed3 1 0 1 4 1ed5 1 0 1 4 1ed7 1 0 1 4 1ed9 1 0 1 4 1edb",
    "1 0 1 4 1edd 1 0 1 4 1edf 1 0 1 4 1ee1 1 0 1 4 1ee3 1 0 1 4 1ee5 1 0 1 4 1ee7 1 0 1 4",
    "1ee9 1 0 1 4 1eeb 1 0 1 4 1eed 1 0 1 4 1eef 1 0 1 4 1ef1 1 0 1 4 1ef3 1 0 1 4 1ef5 1 0",
    "1 4 1ef7 1 0 1 4 1ef9 1 0 1 4 1efb 1 0 1 4 1efd 1 0 1 4 1eff 1 0 9 4 1f00 8 0 6 3 2 4",
    "1f10 6 3 2 0 8 4 1f20 8 0 8 4 1f30 8 0 6 3 2 4 1f40 6 3 2 0 8 3 1 4 1f51 1 3 1 4 1f53",
    "1 3 1 4 1f55 1 3 1 4 1f57 1 0 8 4 1f60 8 0 1 4 3ac 1 0 1 4 3ad 1 0 1 4 3ae 1 0 1 4 3af",
    "1 0 1 4 3cc 1 0 1 4 3cd 1 0 1 4 3ce 1 3 2 6 1f00 3b9 1 6 1f01 3b9 1 6 1f02 3b9 1 6",
    "1f03 3b9 1 6 1f04 3b9 1 6 1f05 3b9 1 6 1f06 3b9 1 6 1f07 3b9 1 6 1f00 3b9 1 6 1f01 3b9",
    "1 6 1f02 3b9 1 6 1f03 3b9 1 6 1f04 3b9 1 6 1f05 3b9 1 6 1f06 3b9 1 6 1f07 3b9 1 6 1f20",
    "3b9 1 6 1f21 3b9 1 6 1f22 3b9 1 6 1f23 3b9 1 6 1f24 3b9 1 6 1f25 3b9 1 6 1f26 3b9 1 6",
    "1f27 3b9 1 6 1f20 3b9 1 6 1f21 3b9 1 6 1f22 3b9 1 6 1f23 3b9 1 6 1f24 3b9 1 6 1f25 3b9",
    "1 6 1f26 3b9 1 6 1f27 3b9 1 6 1f60 3b9 1 6 1f61 3b9 1 6 1f62 3b9 1 6 1f63 3b9 1 6 1f64",
    "3b9 1 6 1f65 3b9 1 6 1f66 3b9 1 6 1f67 3b9 1 6 1f60 3b9 1 6 1f61 3b9 1 6 1f62 3b9 1 6",
    "1f63 3b9 1 6 1f64 3b9 1 6 1f65 3b9 1 6 1f66 3b9 1 6 1f67 3b9 1 0 2 6 1f70 3b9 1 6 3b1",
    "3b9 1 6 3ac 3b9 1 3 1 0 1 6 1fb6 3b9 1 4 1fb0 2 4 1f70 1 4 3ac 1 6 3b1 3b9 1 6 20 313",
    "1 4 3b9 1 6 20 313 1 6 20 342 1 7 20 308 342 1 6 1f74 3b9 1 6 3b7 3b9 1 6 3ae 3b9 1 3",
    "1 0 1 6 1fc6 3b9 1 4 1f72 1 4 3ad 1 4 1f74 1 4 3ae 1 6 3b7 3b9 1 7 20 313 300 1 7 20",
    "313 301 1 7 20 313 342 1 0 3 4 390 1 3 2 0 2 4 1fd0 2 4 1f76 1 4 3af 1 3 1 7 20 314",
    "300 1 7 20 314 301 1 7 20 314 342 1 0 3 4 3b0 1 0 4 4 1fe0 2 4 1f7a 1 4 3cd 1 4 1fe5 1",
    "7 20 308 300 1 7 20 308 301 1 4 60 1 3 2 6 1f7c 3b9 1 6 3c9 3b9 1 6 3ce 3b9 1 3 1 0 1",
    "6 1ff6 3b9 1 4 1f78 1 4 3cc 1 4 1f7c 1 4 3ce 1 6 3c9 3b9 1 6 20 301 1 6 20 314 1 3 1 5",
    "20 b 2 1 1 2 3 2 0 1 4 2010 1 0 5 6 20 333 1 0 c 3 3 0 1 3 7 4 20 1 0 3 6 2032 2032 1",
    "7 2032 2032 2032 1 0 1 6 2035 2035 1 7 2035 2035 2035 1 0 4 6 21 21 1 0 1 6 20 305 1 0",
    "8 6 3f 3f 1 6 3f 21 1 6 21 3f 1 0 d 8 2032 2032 2032 2032 1 0 7 4 20 1 2 5 3 5 2 6 4",
    "30 1 4 69 1 3 2 4 34 6 4 2b 1 4 2212 1 4 3d 1 4 28 2 4 6e 1 4 30 a 4 2b 1 4 2212 1 4",
    "3d 1 4 28 2 3 1 4 61 1 4 65 1 4 6f 1 4 78 1 4 259 1 4 68 1 4 6b 4 4 70 1 4 73 2 3 3 0",
    "8 6 72 73 1 0 18 3 f 0 21 3 f 7 61 2f 63 1 7 61 2f 73 1 4 63 1 6 b0 63 1 0 1 7 63 2f",
    "6f 1 7 63 2f 75 1 4 25b 1 0 1 6 b0 66 1 4 67 1 5 68 4 4 127 1 5 69 2 5 6c 2 0 1 4 6e 1",
    "6 6e 6f 1 0 2 4 70 2 5 72 3 0 2 6 73 6d 1 7 74 65 6c 1 6 74 6d 1 0 1 4 7a 1 0 1 4 3c9",
    "1 0 1 4 7a 1 0 1 4 6b 1 4 e5 1 4 62 2 0 1 5 65 2 4 66 1 4 214e 1 4 6d 1 4 6f 1 4 5d0 4",
    "4 69 1 0 1 7 66 61 78 1 4 3c0 1 5 3b3 2 4 3c0 1 4 2211 1 0 4 5 64 2 4 65 1 4 69 2 0 6",
    "7 31 2044 37 1 7 31 2044 39 1 8 31 2044 31 30 1 7 31 2044 33 1 7 32 2044 33 1 7 31",
    "2044 35 1 7 32 2044 35 1 7 33 2044 35 1 7 34 2044 35 1 7 31 2044 36 1 7 35 2044 36 1 7",
    "31 2044 38 1 7 33 2044 38 1 7 35 2044 38 1 7 37 2044 38 1 6 31 2044 1 4 69 1 6 69 69 1",
    "7 69 69 69 1 6 69 76 1 4 76 1 6 76 69 1 7 76 69 69 1 8 76 69 69 69 1 6 69 78 1 4 78 1",
    "6 78 69 1 7 78 69 69 1 4 6c 1 4 63 2 4 6d 1 4 69 1 6 69 69 1 7 69 69 69 1 6 69 76 1 4",
    "76 1 6 76 69 1 7 76 69 69 1 8 76 69 69 69 1 6 69 78 1 4 78 1 6 78 69 1 7 78 69 69 1 4",
    "6c 1 4 63 2 4 6d 1 0 3 4 2184 1 0 5 7 30 2044 33 1 0 2 3 4 0 9c 6 222b 222b 1 7 222b",
    "222b 222b 1 0 1 6 222e 222e 1 7 222e 222e 222e 1 0 f8 4 3008 2 0 ff 3 16 0 b 3 15 4 31",
    "9 6 31 30 1 6 31 31 1 6 31 32 1 6 31 33 1 6 31 34 1 6 31 35 1 6 31 36 1 6 31 37 1 6 31",
    "38 1 6 31 39 1 6 32 30 1 7 28 31 29 1 7 28 32 29 1 7 28 33 29 1 7 28 34 29 1 7 28 35",
    "29 1 7 28 36 29 1 7 28 37 29 1 7 28 38 29 1 7 28 39 29 1 8 28 31 30 29 1 8 28 31 31 29",
    "1 8 28 31 32 29 1 8 28 31 33 29 1 8 28 31 34 29 1 8 28 31 35 29 1 8 28 31 36 29 1 8 28",
    "31 37 29 1 8 28 31 38 29 1 8 28 31 39 29 1 8 28 32 30 29 1 3 14 7 28 61 29 1 7 28 62",
    "29 1 7 28 63 29 1 7 28 64 29 1 7 28 65 29 1 7 28 66 29 1 7 28 67 29 1 7 28 68 29 1 7",
    "28 69 29 1 7 28 6a 29 1 7 28 6b 29 1 7 28 6c 29 1 7 28 6d 29 1 7 28 6e 29 1 7 28 6f 29",
    "1 7 28 70 29 1 7 28 71 29 1 7 28 72 29 1 7 28 73 29 1 7 28 74 29 1 7 28 75 29 1 7 28",
    "76 29 1 7 28 77 29 1 7 28 78 29 1 7 28 79 29 1 7 28 7a 29 1 4 61 1a 4 61 1a 4 30 1 0",
    "521 8 222b 222b 222b 222b 1 0 67 7 3a 3a 3d 1 6 3d 3d 1 7 3d 3d 3d 1 0 65 6 2add 338 1",
    "0 97 3 2 0 20 3 1 0 69 4 2c30 30 0 30 4 2c61 1 0 1 4 26b 1 4 1d7d 1 4 27d 1 0 2 4 2c68",
    "1 0 1 4 2c6a 1 0 1 4 2c6c 1 0 1 4 251 1 4 271 1 4 250 1 4 252 1 0 1 4 2c73 1 0 2 4",
    "2c76 1 0 6 4 6a 1 4 76 1 4 23f 2 4 2c81 1 0 1 4 2c83 1 0 1 4 2c85 1 0 1 4 2c87 1 0 1 4",
    "2c89 1 0 1 4 2c8b 1 0 1 4 2c8d 1 0 1 4 2c8f 1 0 1 4 2c91 1 0 1 4 2c93 1 0 1 4 2c95 1 0",
    "1 4 2c97 1 0 1 4 2c99 1 0 1 4 2c9b 1 0 1 4 2c9d 1 0 1 4 2c9f 1 0 1 4 2ca1 1 0 1 4 2ca3",
    "1 0 1 4 2ca5 1 0 1 4 2ca7 1 0 1 4 2ca9 1 0 1 4 2cab 1 0 1 4 2cad 1 0 1 4 2caf 1 0 1 4",
    "2cb1 1 0 1 4 2cb3 1 0 1 4 2cb5 1 0 1 4 2cb7 1 0 1 4 2cb9 1 0 1 4 2cbb 1 0 1 4 2cbd 1 0",
    "1 4 2cbf 1 0 1 4 2cc1 1 0 1 4 2cc3 1 0 1 4 2cc5 1 0 1 4 2cc7 1 0 1 4 2cc9 1 0 1 4 2ccb",
    "1 0 1 4 2ccd 1 0 1 4 2ccf 1 0 1 4 2cd1 1 0 1 4 2cd3 1 0 1 4 2cd5 1 0 1 4 2cd7 1 0 1 4",
    "2cd9 1 0 1 4 2cdb 1 0 1 4 2cdd 1 0 1 4 2cdf 1 0 1 4 2ce1 1 0 1 4 2ce3 1 0 8 4 2cec 1 0",
    "1 4 2cee 1 0 4 4 2cf3 1 0 1 3 5 0 2d 3 1 0 1 3 5 0 1 3 2 0 38 3 7 4 2d61 1 0 1 3 e 0",
    "18 3 9 0 7 3 1 0 7 3 1 0 7 3 1 0 7 3 1 0 7 3 1 0 7 3 1 0 7 3 1 0 7 3 1 0 7e 3 22 0 1a",
    "3 1 0 4 4 6bcd 1 0 53 4 9f9f 1 3 c 4 4e00 1 4 4e28 1 4 4e36 1 4 4e3f 1 4 4e59 1 4 4e85",
    "1 4 4e8c 1 4 4ea0 1 4 4eba 1 4 513f 1 4 5165 1 4 516b 1 4 5182 1 4 5196 1 4 51ab 1 4",
    "51e0 1 4 51f5 1 4 5200 1 4 529b 1 4 52f9 1 4 5315 1 4 531a 1 4 5338 1 4 5341 1 4 535c",
    "1 4 5369 1 4 5382 1 4 53b6 1 4 53c8 1 4 53e3 1 4 56d7 1 4 571f 1 4 58eb 1 4 5902 1 4",
    "590a 1 4 5915 1 4 5927 1 4 5973 1 4 5b50 1 4 5b80 1 4 5bf8 1 4 5c0f 1 4 5c22 1 4 5c38",
    "1 4 5c6e 1 4 5c71 1 4 5ddb 1 4 5de5 1 4 5df1 1 4 5dfe 1 4 5e72 1 4 5e7a 1 4 5e7f 1 4",
    "5ef4 1 4 5efe 1 4 5f0b 1 4 5f13 1 4 5f50 1 4 5f61 1 4 5f73 1 4 5fc3 1 4 6208 1 4 6236",
    "1 4 624b 1 4 652f 1 4 6534 1 4 6587 1 4 6597 1 4 65a4 1 4 65b9 1 4 65e0 1 4 65e5 1 4",
    "66f0 1 4 6708 1 4 6728 1 4 6b20 1 4 6b62 1 4 6b79 1 4 6bb3 1 4 6bcb 1 4 6bd4 1 4 6bdb",
    "1 4 6c0f 1 4 6c14 1 4 6c34 1 4 706b 1 4 722a 1 4 7236 1 4 723b 1 4 723f 1 4 7247 1 4",
    "7259 1 4 725b 1 4 72ac 1 4 7384 1 4 7389 1 4 74dc 1 4 74e6 1 4 7518 1 4 751f 1 4 7528",
    "1 4 7530 1 4 758b 1 4 7592 1 4 7676 1 4 767d 1 4 76ae 1 4 76bf 1 4 76ee 1 4 77db 1 4",
    "77e2 1 4 77f3 1 4 793a 1 4 79b8 1 4 79be 1 4 7a74 1 4 7acb 1 4 7af9 1 4 7c73 1 4 7cf8",
    "1 4 7f36 1 4 7f51 1 4 7f8a 1 4 7fbd 1 4 8001 1 4 800c 1 4 8012 1 4 8033 1 4 807f 1 4",
    "8089 1 4 81e3 1 4 81ea 1 4 81f3 1 4 81fc 1 4 820c 1 4 821b 1 4 821f 1 4 826e 1 4 8272",
    "1 4 8278 1 4 864d 1 4 866b 1 4 8840 1 4 884c 1 4 8863 1 4 897e 1 4 898b 1 4 89d2 1 4",
    "8a00 1 4 8c37 1 4 8c46 1 4 8c55 1 4 8c78 1 4 8c9d 1 4 8d64 1 4 8d70 1 4 8db3 1 4 8eab",
    "1 4 8eca 1 4 8f9b 1 4 8fb0 1 4 8fb5 1 4 9091 1 4 9149 1 4 91c6 1 4 91cc 1 4 91d1 1 4",
    "9577 1 4 9580 1 4 961c 1 4 96b6 1 4 96b9 1 4 96e8 1 4 9751 1 4 975e 1 4 9762 1 4 9769",
    "1 4 97cb 1 4 97ed 1 4 97f3 1 4 9801 1 4 98a8 1 4 98db 1 4 98df 1 4 9996 1 4 9999 1 4",
    "99ac 1 4 9aa8 1 4 9ad8 1 4 9adf 1 4 9b25 1 4 9b2f 1 4 9b32 1 4 9b3c 1 4 9b5a 1 4 9ce5",
    "1 4 9e75 1 4 9e7f 1 4 9ea5 1 4 9ebb 1 4 9ec3 1 4 9ecd 1 4 9ed1 1 4 9ef9 1 4 9efd 1 4",
    "9f0e 1 4 9f13 1 4 9f20 1 4 9f3b 1 4 9f4a 1 4 9f52 1 4 9f8d 1 4 9f9c 1 4 9fa0 1 3 2a 4",
    "20 1 0 1 4 2e 1 0 33 4 3012 1 0 1 4 5341 1 4 5344 2 0 5 3 1 0 56 3 2 0 2 6 20 3099 1 6",
    "20 309a 1 0 2 6 3088 308a 1 0 5f 6 30b3 30c8 1 3 5 0 2b 3 1 4 1100 2 4 11aa 1 4 1102 1",
    "4 11ac 2 4 1103 3 4 11b0 6 4 111a 1 4 1106 3 4 1121 1 4 1109 a 4 1161 15 2 1 4 1114 2",
    "4 11c7 2 4 11cc 1 4 11ce 1 4 11d3 1 4 11d7 1 4 11d9 1 4 111c 1 4 11dd 1 4 11df 1 4",
    "111d 2 4 1120 1 4 1122 2 4 1127 1 4 1129 1 4 112b 5 4 1132 1 4 1136 1 4 1140 1 4 1147",
    "1 4 114c 1 4 11f1 2 4 1157 3 4 1184 2 4 1188 1 4 1191 2 4 1194 1 4 119e 1 4 11a1 1 3 1",
    "0 2 4 4e00 1 4 4e8c 1 4 4e09 1 4 56db 1 4 4e0a 1 4 4e2d 1 4 4e0b 1 4 7532 1 4 4e59 1 4",
    "4e19 1 4 4e01 1 4 5929 1 4 5730 1 4 4eba 1 0 46 3 a 0 10 7 28 1100 29 1 7 28 1102 29 1",
    "7 28 1103 29 1 7 28 1105 29 1 7 28 1106 29 1 7 28 1107 29 1 7 28 1109 29 1 7 28 110b",
    "29 1 7 28 110c 29 1 7 28 110e 29 1 7 28 110f 29 1 7 28 1110 29 1 7 28 1111 29 1 7 28",
    "1112 29 1 7 28 ac00 29 1 7 28 b098 29 1 7 28 b2e4 29 1 7 28 b77c 29 1 7 28 b9c8 29 1 7",
    "28 bc14 29 1 7 28 c0ac 29 1 7 28 c544 29 1 7 28 c790 29 1 7 28 cc28 29 1 7 28 ce74 29",
    "1 7 28 d0c0 29 1 7 28 d30c 29 1 7 28 d558 29 1 7 28 c8fc 29 1 8 28 c624 c804 29 1 8 28",
    "c624 d6c4 29 1 3 1 7 28 4e00 29 1 7 28 4e8c 29 1 7 28 4e09 29 1 7 28 56db 29 1 7 28",
    "4e94 29 1 7 28 516d 29 1 7 28 4e03 29 1 7 28 516b 29 1 7 28 4e5d 29 1 7 28 5341 29 1 7",
    "28 6708 29 1 7 28 706b 29 1 7 28 6c34 29 1 7 28 6728 29 1 7 28 91d1 29 1 7 28 571f 29",
    "1 7 28 65e5 29 1 7 28 682a 29 1 7 28 6709 29 1 7 28 793e 29 1 7 28 540d 29 1 7 28 7279",
    "29 1 7 28 8ca1 29 1 7 28 795d 29 1 7 28 52b4 29 1 7 28 4ee3 29 1 7 28 547c 29 1 7 28",
    "5b66 29 1 7 28 76e3 29 1 7 28 4f01 29 1 7 28 8cc7 29 1 7 28 5354 29 1 7 28 796d 29 1 7",
    "28 4f11 29 1 7 28 81ea 29 1 7 28 81f3 29 1 4 554f 1 4 5e7c 1 4 6587 1 4 7b8f 1 0 8 7",
    "70 74 65 1 6 32 31 1 6 32 32 1 6 32 33 1 6 32 34 1 6 32 35 1 6 32 36 1 6 32 37 1 6 32",
    "38 1 6 32 39 1 6 33 30 1 6 33 31 1 6 33 32 1 6 33 33 1 6 33 34 1 6 33 35 1 4 1100 1 4",
    "1102 2 4 1105 3 4 1109 1 4 110b 2 4 110e 5 4 ac00 1 4 b098 1 4 b2e4 1 4 b77c 1 4 b9c8",
    "1 4 bc14 1 4 c0ac 1 4 c544 1 4 c790 1 4 cc28 1 4 ce74 1 4 d0c0 1 4 d30c 1 4 d558 1 6",
    "cc38 ace0 1 6 c8fc c758 1 4 c6b0 1 0 1 4 4e00 1 4 4e8c 1 4 4e09 1 4 56db 1 4 4e94 1 4",
    "516d 1 4 4e03 1 4 516b 1 4 4e5d 1 4 5341 1 4 6708 1 4 706b 1 4 6c34 1 4 6728 1 4 91d1",
    "1 4 571f 1 4 65e5 1 4 682a 1 4 6709 1 4 793e 1 4 540d 1 4 7279 1 4 8ca1 1 4 795d 1 4",
    "52b4 1 4 79d8 1 4 7537 1 4 5973 1 4 9069 1 4 512a 1 4 5370 1 4 6ce8 1 4 9805 1 4 4f11",
    "1 4 5199 1 4 6b63 1 4 4e0a 1 4 4e2d 1 4 4e0b 1 4 5de6 1 4 53f3 1 4 533b 1 4 5b97 1 4",
    "5b66 1 4 76e3 1 4 4f01 1 4 8cc7 1 4 5354 1 4 591c 1 6 33 36 1 6 33 37 1 6 33 38 1 6 33",
    "39 1 6 34 30 1 6 34 31 1 6 34 32 1 6 34 33 1 6 34 34 1 6 34 35 1 6 34 36 1 6 34 37 1 6",
    "34 38 1 6 34 39 1 6 35 30 1 6 31 6708 1 6 32 6708 1 6 33 6708 1 6 34 6708 1 6 35 6708",
    "1 6 36 6708 1 6 37 6708 1 6 38 6708 1 6 39 6708 1 7 31 30 6708 1 7 31 31 6708 1 7 31",
    "32 6708 1 6 68 67 1 7 65 72 67 1 6 65 76 1 7 6c 74 64 1 4 30a2 1 4 30a4 1 4 30a6 1 4",
    "30a8 1 4 30aa 2 4 30ad 1 4 30af 1 4 30b1 1 4 30b3 1 4 30b5 1 4 30b7 1 4 30b9 1 4 30bb",
    "1 4 30bd 1 4 30bf 1 4 30c1 1 4 30c4 1 4 30c6 1 4 30c8 1 4 30ca 6 4 30d2 1 4 30d5 1 4",
    "30d8 1 4 30db 1 4 30de 5 4 30e4 1 4 30e6 1 4 30e8 6 4 30ef 4 6 4ee4 548c 1 8 30a2 30d1",
    "30fc 30c8 1 8 30a2 30eb 30d5 30a1 1 8 30a2 30f3 30da 30a2 1 7 30a2 30fc 30eb 1 8 30a4",
    "30cb 30f3 30b0 1 7 30a4 30f3 30c1 1 7 30a6 30a9 30f3 1 9 30a8 30b9 30af 30fc 30c9 1 8",
    "30a8 30fc 30ab 30fc 1 7 30aa 30f3 30b9 1 7 30aa 30fc 30e0 1 7 30ab 30a4 30ea 1 8 30ab",
    "30e9 30c3 30c8 1 8 30ab 30ed 30ea 30fc 1 7 30ac 30ed 30f3 1 7 30ac 30f3 30de 1 6 30ae",
    "30ac 1 7 30ae 30cb 30fc 1 8 30ad 30e5 30ea 30fc 1 8 30ae 30eb 30c0 30fc 1 6 30ad 30ed",
    "1 9 30ad 30ed 30b0 30e9 30e0 1 a 30ad 30ed 30e1 30fc 30c8 30eb 1 9 30ad 30ed 30ef 30c3",
    "30c8 1 7 30b0 30e9 30e0 1 9 30b0 30e9 30e0 30c8 30f3 1 9 30af 30eb 30bc 30a4 30ed 1 8",
    "30af 30ed 30fc 30cd 1 7 30b1 30fc 30b9 1 7 30b3 30eb 30ca 1 7 30b3 30fc 30dd 1 8 30b5",
    "30a4 30af 30eb 1 9 30b5 30f3 30c1 30fc 30e0 1 8 30b7 30ea 30f3 30b0 1 7 30bb 30f3 30c1",
    "1 7 30bb 30f3 30c8 1 7 30c0 30fc 30b9 1 6 30c7 30b7 1 6 30c9 30eb 1 6 30c8 30f3 1 6",
    "30ca 30ce 1 7 30ce 30c3 30c8 1 7 30cf 30a4 30c4 1 9 30d1 30fc 30bb 30f3 30c8 1 7 30d1",
    "30fc 30c4 1 8 30d0 30fc 30ec 30eb 1 9 30d4 30a2 30b9 30c8 30eb 1 7 30d4 30af 30eb 1 6",
    "30d4 30b3 1 6 30d3 30eb 1 9 30d5 30a1 30e9 30c3 30c9 1 8 30d5 30a3 30fc 30c8 1 9 30d6",
    "30c3 30b7 30a7 30eb 1 7 30d5 30e9 30f3 1 9 30d8 30af 30bf 30fc 30eb 1 6 30da 30bd 1 7",
    "30da 30cb 30d2 1 7 30d8 30eb 30c4 1 7 30da 30f3 30b9 1 7 30da 30fc 30b8 1 7 30d9 30fc",
    "30bf 1 8 30dd 30a4 30f3 30c8 1 7 30dc 30eb 30c8 1 6 30db 30f3 1 7 30dd 30f3 30c9 1 7",
    "30db 30fc 30eb 1 7 30db 30fc 30f3 1 8 30de 30a4 30af 30ed 1 7 30de 30a4 30eb 1 7 30de",
    "30c3 30cf 1 7 30de 30eb 30af 1 9 30de 30f3 30b7 30e7 30f3 1 8 30df 30af 30ed 30f3 1 6",
    "30df 30ea 1 9 30df 30ea 30d0 30fc 30eb 1 6 30e1 30ac 1 8 30e1 30ac 30c8 30f3 1 8 30e1",
    "30fc 30c8 30eb 1 7 30e4 30fc 30c9 1 7 30e4 30fc 30eb 1 7 30e6 30a2 30f3 1 8 30ea 30c3",
    "30c8 30eb 1 6 30ea 30e9 1 7 30eb 30d4 30fc 1 8 30eb 30fc 30d6 30eb 1 6 30ec 30e0 1 9",
    "30ec 30f3 30c8 30b2 30f3 1 7 30ef 30c3 30c8 1 6 30 70b9 1 6 31 70b9 1 6 32 70b9 1 6 33",
    "70b9 1 6 34 70b9 1 6 35 70b9 1 6 36 70b9 1 6 37 70b9 1 6 38 70b9 1 6 39 70b9 1 7 31 30",
    "70b9 1 7 31 31 70b9 1 7 31 32 70b9 1 7 31 33 70b9 1 7 31 34 70b9 1 7 31 35 70b9 1 7 31",
    "36 70b9 1 7 31 37 70b9 1 7 31 38 70b9 1 7 31 39 70b9 1 7 32 30 70b9 1 7 32 31 70b9 1 7",
    "32 32 70b9 1 7 32 33 70b9 1 7 32 34 70b9 1 7 68 70 61 1 6 64 61 1 6 61 75 1 7 62 61 72",
    "1 6 6f 76 1 6 70 63 1 6 64 6d 1 7 64 6d 32 1 7 64 6d 33 1 6 69 75 1 6 5e73 6210 1 6",
    "662d 548c 1 6 5927 6b63 1 6 660e 6cbb 1 8 682a 5f0f 4f1a 793e 1 6 70 61 1 6 6e 61 1 6",
    "3bc 61 1 6 6d 61 1 6 6b 61 1 6 6b 62 1 6 6d 62 1 6 67 62 1 7 63 61 6c 1 8 6b 63 61 6c",
    "1 6 70 66 1 6 6e 66 1 6 3bc 66 1 6 3bc 67 1 6 6d 67 1 6 6b 67 1 6 68 7a 1 7 6b 68 7a 1",
    "7 6d 68 7a 1 7 67 68 7a 1 7 74 68 7a 1 6 3bc 6c 1 6 6d 6c 1 6 64 6c 1 6 6b 6c 1 6 66",
    "6d 1 6 6e 6d 1 6 3bc 6d 1 6 6d 6d 1 6 63 6d 1 6 6b 6d 1 7 6d 6d 32 1 7 63 6d 32 1 6 6d",
    "32 1 7 6b 6d 32 1 7 6d 6d 33 1 7 63 6d 33 1 6 6d 33 1 7 6b 6d 33 1 7 6d 2215 73 1 8 6d",
    "2215 73 32 1 6 70 61 1 7 6b 70 61 1 7 6d 70 61 1 7 67 70 61 1 7 72 61 64 1 9 72 61 64",
    "2215 73 1 a 72 61 64 2215 73 32 1 6 70 73 1 6 6e 73 1 6 3bc 73 1 6 6d 73 1 6 70 76 1 6",
    "6e 76 1 6 3bc 76 1 6 6d 76 1 6 6b 76 1 6 6d 76 1 6 70 77 1 6 6e 77 1 6 3bc 77 1 6 6d",
    "77 1 6 6b 77 1 6 6d 77 1 6 6b 3c9 1 6 6d 3c9 1 3 1 6 62 71 1 6 63 63 1 6 63 64 1 8 63",
    "2215 6b 67 1 3 1 6 64 62 1 6 67 79 1 6 68 61 1 6 68 70 1 6 69 6e 1 6 6b 6b 1 6 6b 6d 1",
    "6 6b 74 1 6 6c 6d 1 6 6c 6e 1 7 6c 6f 67 1 6 6c 78 1 6 6d 62 1 7 6d 69 6c 1 7 6d 6f 6c",
    "1 6 70 68 1 3 1 7 70 70 6d 1 6 70 72 1 6 73 72 1 6 73 76 1 6 77 62 1 7 76 2215 6d 1 7",
    "61 2215 6d 1 6 31 65e5 1 6 32 65e5 1 6 33 65e5 1 6 34 65e5 1 6 35 65e5 1 6 36 65e5 1 6",
    "37 65e5 1 6 38 65e5 1 6 39 65e5 1 7 31 30 65e5 1 7 31 31 65e5 1 7 31 32 65e5 1 7 31 33",
    "65e5 1 7 31 34 65e5 1 7 31 35 65e5 1 7 31 36 65e5 1 7 31 37 65e5 1 7 31 38 65e5 1 7 31",
    "39 65e5 1 7 32 30 65e5 1 7 32 31 65e5 1 7 32 32 65e5 1 7 32 33 65e5 1 7 32 34 65e5 1 7",
    "32 35 65e5 1 7 32 36 65e5 1 7 32 37 65e5 1 7 32 38 65e5 1 7 32 39 65e5 1 7 33 30 65e5",
    "1 7 33 31 65e5 1 7 67 61 6c 1 0 708d 3 3 0 37 3 9 0 15c 3 14 4 a641 1 0 1 4 a643 1 0 1",
    "4 a645 1 0 1 4 a647 1 0 1 4 a649 1 0 1 4 a64b 1 0 1 4 a64d 1 0 1 4 a64f 1 0 1 4 a651 1",
    "0 1 4 a653 1 0 1 4 a655 1 0 1 4 a657 1 0 1 4 a659 1 0 1 4 a65b 1 0 1 4 a65d 1 0 1 4",
    "a65f 1 0 1 4 a661 1 0 1 4 a663 1 0 1 4 a665 1 0 1 4 a667 1 0 1 4 a669 1 0 1 4 a66b 1 0",
    "1 4 a66d 1 0 13 4 a681 1 0 1 4 a683 1 0 1 4 a685 1 0 1 4 a687 1 0 1 4 a689 1 0 1 4",
    "a68b 1 0 1 4 a68d 1 0 1 4 a68f 1 0 1 4 a691 1 0 1 4 a693 1 0 1 4 a695 1 0 1 4 a697 1 0",
    "1 4 a699 1 0 1 4 a69b 1 0 1 4 44a 1 4 44c 1 0 5a 3 8 0 22 4 a723 1 0 1 4 a725 1 0 1 4",
    "a727 1 0 1 4 a729 1 0 1 4 a72b 1 0 1 4 a72d 1 0 1 4 a72f 1 0 3 4 a733 1 0 1 4 a735 1 0",
    "1 4 a737 1 0 1 4 a739 1 0 1 4 a73b 1 0 1 4 a73d 1 0 1 4 a73f 1 0 1 4 a741 1 0 1 4 a743",
    "1 0 1 4 a745 1 0 1 4 a747 1 0 1 4 a749 1 0 1 4 a74b 1 0 1 4 a74d 1 0 1 4 a74f 1 0 1 4",
    "a751 1 0 1 4 a753 1 0 1 4 a755 1 0 1 4 a757 1 0 1 4 a759 1 0 1 4 a75b 1 0 1 4 a75d 1 0",
    "1 4 a75f 1 0 1 4 a761 1 0 1 4 a763 1 0 1 4 a765 1 0 1 4 a767 1 0 1 4 a769 1 0 1 4 a76b",
    "1 0 1 4 a76d 1 0 1 4 a76f 1 0 1 4 a76f 1 0 8 4 a77a 1 0 1 4 a77c 1 0 1 4 1d79 1 4 a77f",
    "1 0 1 4 a781 1 0 1 4 a783 1 0 1 4 a785 1 0 1 4 a787 1 0 4 4 a78c 1 0 1 4 265 1 0 2 4",
    "a791 1 0 1 4 a793 1 0 3 4 a797 1 0 1 4 a799 1 0 1 4 a79b 1 0 1 4 a79d 1 0 1 4 a79f 1 0",
    "1 4 a7a1 1 0 1 4 a7a3 1 0 1 4 a7a5 1 0 1 4 a7a7 1 0 1 4 a7a9 1 0 1 4 266 1 4 25c 1 4",
    "261 1 4 26c 1 4 26a 1 0 1 4 29e 1 4 287 1 4 29d 1 4 ab53 1 4 a7b5 1 0 1 4 a7b7 1 0 1 4",
    "a7b9 1 0 1 4 a7bb 1 0 1 4 a7bd 1 0 1 4 a7bf 1 0 1 4 a7c1 1 0 1 4 a7c3 1 0 1 4 a794 1 4",
    "282 1 4 1d8e 1 4 a7c8 1 0 1 4 a7ca 1 0 1 4 264 1 4 a7cd 1 0 1 3 2 4 a7d1 1 0 1 3 1 0 1",
    "3 1 0 1 4 a7d7 1 0 1 4 a7d9 1 0 1 4 a7db 1 0 1 4 19b 1 3 15 4 63 1 4 66 1 4 71 1 4",
    "a7f6 1 0 2 4 127 1 4 153 1 0 33 3 3 0 a 3 6 0 38 3 8 0 46 3 8 0 c 3 6 0 74 3 b 0 1e 3",
    "3 0 4e 3 1 0 b 3 4 0 21 3 1 0 37 3 9 0 e 3 2 0 a 3 2 0 67 3 18 0 1c 3 a 0 6 3 2 0 6 3",
    "2 0 6 3 9 0 7 3 1 0 7 3 1 0 2c 4 a727 1 4 ab37 1 4 26b 1 4 ab52 1 0 9 4 28d 1 0 2 3 4",
    "4 13a0 50 0 2e 3 2 0 a 3 6 0 2ba4 3 c 0 17 3 4 0 31 3 2104 4 8c48 1 4 66f4 1 4 8eca 1",
    "4 8cc8 1 4 6ed1 1 4 4e32 1 4 53e5 1 5 9f9c 2 4 5951 1 4 91d1 1 4 5587 1 4 5948 1 4",
    "61f6 1 4 7669 1 4 7f85 1 4 863f 1 4 87ba 1 4 88f8 1 4 908f 1 4 6a02 1 4 6d1b 1 4 70d9",
    "1 4 73de 1 4 843d 1 4 916a 1 4 99f1 1 4 4e82 1 4 5375 1 4 6b04 1 4 721b 1 4 862d 1 4",
    "9e1e 1 4 5d50 1 4 6feb 1 4 85cd 1 4 8964 1 4 62c9 1 4 81d8 1 4 881f 1 4 5eca 1 4 6717",
    "1 4 6d6a 1 4 72fc 1 4 90ce 1 4 4f86 1 4 51b7 1 4 52de 1 4 64c4 1 4 6ad3 1 4 7210 1 4",
    "76e7 1 4 8001 1 4 8606 1 4 865c 1 4 8def 1 4 9732 1 4 9b6f 1 4 9dfa 1 4 788c 1 4 797f",
    "1 4 7da0 1 4 83c9 1 4 9304 1 4 9e7f 1 4 8ad6 1 4 58df 1 4 5f04 1 4 7c60 1 4 807e 1 4",
    "7262 1 4 78ca 1 4 8cc2 1 4 96f7 1 4 58d8 1 4 5c62 1 4 6a13 1 4 6dda 1 4 6f0f 1 4 7d2f",
    "1 4 7e37 1 4 964b 1 4 52d2 1 4 808b 1 4 51dc 1 4 51cc 1 4 7a1c 1 4 7dbe 1 4 83f1 1 4",
    "9675 1 4 8b80 1 4 62cf 1 4 6a02 1 4 8afe 1 4 4e39 1 4 5be7 1 4 6012 1 4 7387 1 4 7570",
    "1 4 5317 1 4 78fb 1 4 4fbf 1 4 5fa9 1 4 4e0d 1 4 6ccc 1 4 6578 1 4 7d22 1 4 53c3 1 4",
    "585e 1 4 7701 1 4 8449 1 4 8aaa 1 4 6bba 1 4 8fb0 1 4 6c88 1 4 62fe 1 4 82e5 1 4 63a0",
    "1 4 7565 1 4 4eae 1 4 5169 1 4 51c9 1 4 6881 1 4 7ce7 1 4 826f 1 4 8ad2 1 4 91cf 1 4",
    "52f5 1 4 5442 1 4 5973 1 4 5eec 1 4 65c5 1 4 6ffe 1 4 792a 1 4 95ad 1 4 9a6a 1 4 9e97",
    "1 4 9ece 1 4 529b 1 4 66c6 1 4 6b77 1 4 8f62 1 4 5e74 1 4 6190 1 4 6200 1 4 649a 1 4",
    "6f23 1 4 7149 1 4 7489 1 4 79ca 1 4 7df4 1 4 806f 1 4 8f26 1 4 84ee 1 4 9023 1 4 934a",
    "1 4 5217 1 4 52a3 1 4 54bd 1 4 70c8 1 4 88c2 1 4 8aaa 1 4 5ec9 1 4 5ff5 1 4 637b 1 4",
    "6bae 1 4 7c3e 1 4 7375 1 4 4ee4 1 4 56f9 1 4 5be7 1 4 5dba 1 4 601c 1 4 73b2 1 4 7469",
    "1 4 7f9a 1 4 8046 1 4 9234 1 4 96f6 1 4 9748 1 4 9818 1 4 4f8b 1 4 79ae 1 4 91b4 1 4",
    "96b8 1 4 60e1 1 4 4e86 1 4 50da 1 4 5bee 1 4 5c3f 1 4 6599 1 4 6a02 1 4 71ce 1 4 7642",
    "1 4 84fc 1 4 907c 1 4 9f8d 1 4 6688 1 4 962e 1 4 5289 1 4 677b 1 4 67f3 1 4 6d41 1 4",
    "6e9c 1 4 7409 1 4 7559 1 4 786b 1 4 7d10 1 4 985e 1 4 516d 1 4 622e 1 4 9678 1 4 502b",
    "1 4 5d19 1 4 6dea 1 4 8f2a 1 4 5f8b 1 4 6144 1 4 6817 1 4 7387 1 4 9686 1 4 5229 1 4",
    "540f 1 4 5c65 1 4 6613 1 4 674e 1 4 68a8 1 4 6ce5 1 4 7406 1 4 75e2 1 4 7f79 1 4 88cf",
    "1 4 88e1 1 4 91cc 1 4 96e2 1 4 533f 1 4 6eba 1 4 541d 1 4 71d0 1 4 7498 1 4 85fa 1 4",
    "96a3 1 4 9c57 1 4 9e9f 1 4 6797 1 4 6dcb 1 4 81e8 1 4 7acb 1 4 7b20 1 4 7c92 1 4 72c0",
    "1 4 7099 1 4 8b58 1 4 4ec0 1 4 8336 1 4 523a 1 4 5207 1 4 5ea6 1 4 62d3 1 4 7cd6 1 4",
    "5b85 1 4 6d1e 1 4 66b4 1 4 8f3b 1 4 884c 1 4 964d 1 4 898b 1 4 5ed3 1 4 5140 1 4 55c0",
    "1 0 2 4 585a 1 0 1 4 6674 1 0 2 4 51de 1 4 732a 1 4 76ca 1 4 793c 1 4 795e 1 4 7965 1",
    "4 798f 1 4 9756 1 4 7cbe 1 4 7fbd 1 0 1 4 8612 1 0 1 4 8af8 1 0 2 4 9038 1 4 90fd 1 0",
    "3 4 98ef 1 4 98fc 1 4 9928 1 4 9db4 1 4 90de 1 4 96b7 1 4 4fae 1 4 50e7 1 4 514d 1 4",
    "52c9 1 4 52e4 1 4 5351 1 4 559d 1 4 5606 1 4 5668 1 4 5840 1 4 58a8 1 4 5c64 1 4 5c6e",
    "1 4 6094 1 4 6168 1 4 618e 1 4 61f2 1 4 654f 1 4 65e2 1 4 6691 1 4 6885 1 4 6d77 1 4",
    "6e1a 1 4 6f22 1 4 716e 1 4 722b 1 4 7422 1 4 7891 1 4 793e 1 4 7949 1 4 7948 1 4 7950",
    "1 4 7956 1 4 795d 1 4 798d 2 4 7a40 1 4 7a81 1 4 7bc0 1 4 7df4 1 4 7e09 1 4 7e41 1 4",
    "7f72 1 4 8005 1 4 81ed 1 5 8279 2 4 8457 1 4 8910 1 4 8996 1 4 8b01 1 4 8b39 1 4 8cd3",
    "1 4 8d08 1 4 8fb6 1 4 9038 1 4 96e3 1 4 97ff 1 4 983b 1 4 6075 1 4 242ee 1 4 8218 1 3",
    "2 4 4e26 1 4 51b5 1 4 5168 1 4 4f80 1 4 5145 1 4 5180 1 4 52c7 1 4 52fa 1 4 559d 1 4",
    "5555 1 4 5599 1 4 55e2 1 4 585a 1 4 58b3 1 4 5944 1 4 5954 1 4 5a62 1 4 5b28 1 4 5ed2",
    "1 4 5ed9 1 4 5f69 1 4 5fad 1 4 60d8 1 4 614e 1 4 6108 1 4 618e 1 4 6160 1 4 61f2 1 4",
    "6234 1 4 63c4 1 4 641c 1 4 6452 1 4 6556 1 4 6674 1 4 6717 1 4 671b 1 4 6756 1 4 6b79",
    "1 4 6bba 1 4 6d41 1 4 6edb 1 4 6ecb 1 4 6f22 1 4 701e 1 4 716e 1 4 77a7 1 4 7235 1 4",
    "72af 1 4 732a 1 4 7471 1 4 7506 1 4 753b 1 4 761d 1 4 761f 1 4 76ca 1 4 76db 1 4 76f4",
    "1 4 774a 1 4 7740 1 4 78cc 1 4 7ab1 1 4 7bc0 1 4 7c7b 1 4 7d5b 1 4 7df4 1 4 7f3e 1 4",
    "8005 1 4 8352 1 4 83ef 1 4 8779 1 4 8941 1 4 8986 1 4 8996 1 4 8abf 1 4 8af8 1 4 8acb",
    "1 4 8b01 1 4 8afe 1 4 8aed 1 4 8b39 1 4 8b8a 1 4 8d08 1 4 8f38 1 4 9072 1 4 9199 1 4",
    "9276 1 4 967c 1 4 96e3 1 4 9756 1 4 97db 1 4 97ff 1 4 980b 1 4 983b 1 4 9b12 1 4 9f9c",
    "1 4 2284a 1 4 22844 1 4 233d5 1 4 3b9d 1 4 4018 1 4 4039 1 4 25249 1 4 25cd0 1 4 27ed3",
    "1 4 9f43 1 4 9f8e 1 3 26 6 66 66 1 6 66 69 1 6 66 6c 1 7 66 66 69 1 7 66 66 6c 1 6 73",
    "74 2 3 c 6 574 576 1 6 574 565 1 6 574 56b 1 6 57e 576 1 6 574 56d 1 3 5 6 5d9 5b4 1 0",
    "1 6 5f2 5b7 1 4 5e2 1 4 5d0 1 4 5d3 2 4 5db 3 4 5e8 1 4 5ea 1 4 2b 1 6 5e9 5c1 1 6 5e9",
    "5c2 1 7 5e9 5bc 5c1 1 7 5e9 5bc 5c2 1 6 5d0 5b7 1 6 5d0 5b8 1 6 5d0 5bc 1 6 5d1 5bc 1",
    "6 5d2 5bc 1 6 5d3 5bc 1 6 5d4 5bc 1 6 5d5 5bc 1 6 5d6 5bc 1 3 1 6 5d8 5bc 1 6 5d9 5bc",
    "1 6 5da 5bc 1 6 5db 5bc 1 6 5dc 5bc 1 3 1 6 5de 5bc 1 3 1 6 5e0 5bc 1 6 5e1 5bc 1 3 1",
    "6 5e3 5bc 1 6 5e4 5bc 1 3 1 6 5e6 5bc 1 6 5e7 5bc 1 6 5e8 5bc 1 6 5e9 5bc 1 6 5ea 5bc",
    "1 6 5d5 5b9 1 6 5d1 5bf 1 6 5db 5bf 1 6 5e4 5bf 1 6 5d0 5dc 1 5 671 2 5 67b 4 5 67e 4",
    "5 680 4 5 67a 4 5 67f 4 5 679 4 5 6a4 4 5 6a6 4 5 684 4 5 683 4 5 686 4 5 687 4 5 68d",
    "2 5 68c 2 5 68e 2 5 688 2 5 698 2 5 691 2 5 6a9 4 5 6af 4 5 6b3 4 5 6b1 4 5 6ba 2 5",
    "6bb 4 5 6c0 2 5 6c1 4 5 6be 4 5 6d2 2 5 6d3 2 0 11 3 10 5 6ad 4 5 6c7 2 5 6c6 2 5 6c8",
    "2 6 6c7 674 1 5 6cb 2 5 6c5 2 5 6c9 2 5 6d0 4 5 649 2 6 626 627 2 6 626 6d5 2 6 626",
    "648 2 6 626 6c7 2 6 626 6c6 2 6 626 6c8 2 6 626 6d0 3 6 626 649 3 5 6cc 4 6 626 62c 1",
    "6 626 62d 1 6 626 645 1 6 626 649 1 6 626 64a 1 6 628 62c 1 6 628 62d 1 6 628 62e 1 6",
    "628 645 1 6 628 649 1 6 628 64a 1 6 62a 62c 1 6 62a 62d 1 6 62a 62e 1 6 62a 645 1 6",
    "62a 649 1 6 62a 64a 1 6 62b 62c 1 6 62b 645 1 6 62b 649 1 6 62b 64a 1 6 62c 62d 1 6",
    "62c 645 1 6 62d 62c 1 6 62d 645 1 6 62e 62c 1 6 62e 62d 1 6 62e 645 1 6 633 62c 1 6",
    "633 62d 1 6 633 62e 1 6 633 645 1 6 635 62d 1 6 635 645 1 6 636 62c 1 6 636 62d 1 6",
    "636 62e 1 6 636 645 1 6 637 62d 1 6 637 645 1 6 638 645 1 6 639 62c 1 6 639 645 1 6",
    "63a 62c 1 6 63a 645 1 6 641 62c 1 6 641 62d 1 6 641 62e 1 6 641 645 1 6 641 649 1 6",
    "641 64a 1 6 642 62d 1 6 642 645 1 6 642 649 1 6 642 64a 1 6 643 627 1 6 643 62c 1 6",
    "643 62d 1 6 643 62e 1 6 643 644 1 6 643 645 1 6 643 649 1 6 643 64a 1 6 644 62c 1 6",
    "644 62d 1 6 644 62e 1 6 644 645 1 6 644 649 1 6 644 64a 1 6 645 62c 1 6 645 62d 1 6",
    "645 62e 1 6 645 645 1 6 645 649 1 6 645 64a 1 6 646 62c 1 6 646 62d 1 6 646 62e 1 6",
    "646 645 1 6 646 649 1 6 646 64a 1 6 647 62c 1 6 647 645 1 6 647 649 1 6 647 64a 1 6",
    "64a 62c 1 6 64a 62d 1 6 64a 62e 1 6 64a 645 1 6 64a 649 1 6 64a 64a 1 6 630 670 1 6",
    "631 670 1 6 649 670 1 7 20 64c 651 1 7 20 64d 651 1 7 20 64e 651 1 7 20 64f 651 1 7 20",
    "650 651 1 7 20 651 670 1 6 626 631 1 6 626 632 1 6 626 645 1 6 626 646 1 6 626 649 1 6",
    "626 64a 1 6 628 631 1 6 628 632 1 6 628 645 1 6 628 646 1 6 628 649 1 6 628 64a 1 6",
    "62a 631 1 6 62a 632 1 6 62a 645 1 6 62a 646 1 6 62a 649 1 6 62a 64a 1 6 62b 631 1 6",
    "62b 632 1 6 62b 645 1 6 62b 646 1 6 62b 649 1 6 62b 64a 1 6 641 649 1 6 641 64a 1 6",
    "642 649 1 6 642 64a 1 6 643 627 1 6 643 644 1 6 643 645 1 6 643 649 1 6 643 64a 1 6",
    "644 645 1 6 644 649 1 6 644 64a 1 6 645 627 1 6 645 645 1 6 646 631 1 6 646 632 1 6",
    "646 645 1 6 646 646 1 6 646 649 1 6 646 64a 1 6 649 670 1 6 64a 631 1 6 64a 632 1 6",
    "64a 645 1 6 64a 646 1 6 64a 649 1 6 64a 64a 1 6 626 62c 1 6 626 62d 1 6 626 62e 1 6",
    "626 645 1 6 626 647 1 6 628 62c 1 6 628 62d 1 6 628 62e 1 6 628 645 1 6 628 647 1 6",
    "62a 62c 1 6 62a 62d 1 6 62a 62e 1 6 62a 645 1 6 62a 647 1 6 62b 645 1 6 62c 62d 1 6",
    "62c 645 1 6 62d 62c 1 6 62d 645 1 6 62e 62c 1 6 62e 645 1 6 633 62c 1 6 633 62d 1 6",
    "633 62e 1 6 633 645 1 6 635 62d 1 6 635 62e 1 6 635 645 1 6 636 62c 1 6 636 62d 1 6",
    "636 62e 1 6 636 645 1 6 637 62d 1 6 638 645 1 6 639 62c 1 6 639 645 1 6 63a 62c 1 6",
    "63a 645 1 6 641 62c 1 6 641 62d 1 6 641 62e 1 6 641 645 1 6 642 62d 1 6 642 645 1 6",
    "643 62c 1 6 643 62d 1 6 643 62e 1 6 643 644 1 6 643 645 1 6 644 62c 1 6 644 62d 1 6",
    "644 62e 1 6 644 645 1 6 644 647 1 6 645 62c 1 6 645 62d 1 6 645 62e 1 6 645 645 1 6",
    "646 62c 1 6 646 62d 1 6 646 62e 1 6 646 645 1 6 646 647 1 6 647 62c 1 6 647 645 1 6",
    "647 670 1 6 64a 62c 1 6 64a 62d 1 6 64a 62e 1 6 64a 645 1 6 64a 647 1 6 626 645 1 6",
    "626 647 1 6 628 645 1 6 628 647 1 6 62a 645 1 6 62a 647 1 6 62b 645 1 6 62b 647 1 6",
    "633 645 1 6 633 647 1 6 634 645 1 6 634 647 1 6 643 644 1 6 643 645 1 6 644 645 1 6",
    "646 645 1 6 646 647 1 6 64a 645 1 6 64a 647 1 7 640 64e 651 1 7 640 64f 651 1 7 640",
    "650 651 1 6 637 649 1 6 637 64a 1 6 639 649 1 6 639 64a 1 6 63a 649 1 6 63a 64a 1 6",
    "633 649 1 6 633 64a 1 6 634 649 1 6 634 64a 1 6 62d 649 1 6 62d 64a 1 6 62c 649 1 6",
    "62c 64a 1 6 62e 649 1 6 62e 64a 1 6 635 649 1 6 635 64a 1 6 636 649 1 6 636 64a 1 6",
    "634 62c 1 6 634 62d 1 6 634 62e 1 6 634 645 1 6 634 631 1 6 633 631 1 6 635 631 1 6",
    "636 631 1 6 637 649 1 6 637 64a 1 6 639 649 1 6 639 64a 1 6 63a 649 1 6 63a 64a 1 6",
    "633 649 1 6 633 64a 1 6 634 649 1 6 634 64a 1 6 62d 649 1 6 62d 64a 1 6 62c 649 1 6",
    "62c 64a 1 6 62e 649 1 6 62e 64a 1 6 635 649 1 6 635 64a 1 6 636 649 1 6 636 64a 1 6",
    "634 62c 1 6 634 62d 1 6 634 62e 1 6 634 645 1 6 634 631 1 6 633 631 1 6 635 631 1 6",
    "636 631 1 6 634 62c 1 6 634 62d 1 6 634 62e 1 6 634 645 1 6 633 647 1 6 634 647 1 6",
    "637 645 1 6 633 62c 1 6 633 62d 1 6 633 62e 1 6 634 62c 1 6 634 62d 1 6 634 62e 1 6",
    "637 645 1 6 638 645 1 6 627 64b 2 0 12 7 62a 62c 645 1 7 62a 62d 62c 2 7 62a 62d 645 1",
    "7 62a 62e 645 1 7 62a 645 62c 1 7 62a 645 62d 1 7 62a 645 62e 1 7 62c 645 62d 2 7 62d",
    "645 64a 1 7 62d 645 649 1 7 633 62d 62c 1 7 633 62c 62d 1 7 633 62c 649 1 7 633 645",
    "62d 2 7 633 645 62c 1 7 633 645 645 2 7 635 62d 62d 2 7 635 645 645 1 7 634 62d 645 2",
    "7 634 62c 64a 1 7 634 645 62e 2 7 634 645 645 2 7 636 62d 649 1 7 636 62e 645 2 7 637",
    "645 62d 2 7 637 645 645 1 7 637 645 64a 1 7 639 62c 645 1 7 639 645 645 2 7 639 645",
    "649 1 7 63a 645 645 1 7 63a 645 64a 1 7 63a 645 649 1 7 641 62e 645 2 7 642 645 62d 1",
    "7 642 645 645 1 7 644 62d 645 1 7 644 62d 64a 1 7 644 62d 649 1 7 644 62c 62c 2 7 644",
    "62e 645 2 7 644 645 62d 2 7 645 62d 62c 1 7 645 62d 645 1 7 645 62d 64a 1 7 645 62c",
    "62d 1 7 645 62c 645 1 7 645 62e 62c 1 7 645 62e 645 1 3 2 7 645 62c 62e 1 7 647 645",
    "62c 1 7 647 645 645 1 7 646 62d 645 1 7 646 62d 649 1 7 646 62c 645 2 7 646 62c 649 1",
    "7 646 645 64a 1 7 646 645 649 1 7 64a 645 645 2 7 628 62e 64a 1 7 62a 62c 64a 1 7 62a",
    "62c 649 1 7 62a 62e 64a 1 7 62a 62e 649 1 7 62a 645 64a 1 7 62a 645 649 1 7 62c 645",
    "64a 1 7 62c 62d 649 1 7 62c 645 649 1 7 633 62e 649 1 7 635 62d 64a 1 7 634 62d 64a 1",
    "7 636 62d 64a 1 7 644 62c 64a 1 7 644 645 64a 1 7 64a 62d 64a 1 7 64a 62c 64a 1 7 64a",
    "645 64a 1 7 645 645 64a 1 7 642 645 64a 1 7 646 62d 64a 1 7 642 645 62d 1 7 644 62d",
    "645 1 7 639 645 64a 1 7 643 645 64a 1 7 646 62c 62d 1 7 645 62e 64a 1 7 644 62c 645 1",
    "7 643 645 645 1 7 644 62c 645 1 7 646 62c 62d 1 7 62c 62d 64a 1 7 62d 62c 64a 1 7 645",
    "62c 64a 1 7 641 645 64a 1 7 628 62d 64a 1 7 643 645 645 1 7 639 62c 645 1 7 635 645",
    "645 1 7 633 62e 64a 1 7 646 62c 64a 1 3 7 0 1 3 20 7 635 644 6d2 1 7 642 644 6d2 1 8",
    "627 644 644 647 1 8 627 643 628 631 1 8 645 62d 645 62f 1 8 635 644 639 645 1 8 631",
    "633 648 644 1 8 639 644 64a 647 1 8 648 633 644 645 1 7 635 644 649 1 16 635 644 649",
    "20 627 644 644 647 20 639 644 64a 647 20 648 633 644 645 1 c 62c 644 20 62c 644 627",
    "644 647 1 8 631 6cc 627 644 1 0 3 2 10 4 2c 1 4 3001 1 3 1 4 3a 2 4 21 1 4 3f 1 4 3016",
    "2 3 7 0 10 3 1 4 2014 1 4 2013 1 5 5f 2 4 28 2 4 7b 1 4 7d 1 4 3014 2 4 3010 2 4 300a",
    "2 4 3008 2 4 300c 4 0 2 4 5b 1 4 5d 1 6 20 305 4 5 5f 3 4 2c 1 4 3001 1 3 2 4 3b 1 4",
    "3a 1 4 3f 1 4 21 1 4 2014 1 4 28 2 4 7b 1 4 7d 1 4 3014 2 4 23 1 4 26 1 4 2a 2 4 2d 1",
    "4 3c 1 4 3e 1 4 3d 1 3 1 4 5c 1 4 24 2 4 40 1 3 4 6 20 64b 1 6 640 64b 1 6 20 64c 1 0",
    "1 6 20 64d 1 3 1 6 20 64e 1 6 640 64e 1 6 20 64f 1 6 640 64f 1 6 20 650 1 6 640 650 1",
    "6 20 651 1 6 640 651 1 6 20 652 1 6 640 652 1 4 621 1 5 622 2 5 623 2 5 624 2 5 625 2",
    "5 626 4 5 627 2 5 628 4 5 629 2 5 62a 4 5 62b 4 5 62c 4 5 62d 4 5 62e 4 5 62f 2 5 630",
    "2 5 631 2 5 632 2 5 633 4 5 634 4 5 635 4 5 636 4 5 637 4 5 638 4 5 639 4 5 63a 4 5",
    "641 4 5 642 4 5 643 4 5 644 4 5 645 4 5 646 4 5 647 4 5 648 2 5 649 2 5 64a 4 6 644",
    "622 2 6 644 623 2 6 644 625 2 6 644 627 2 3 2 2 1 3 1 4 21 20 4 61 1a 4 5b 24 4 2985 2",
    "4 2e 1 4 300c 2 4 3001 1 4 30fb 1 4 30f2 1 4 30a1 1 4 30a3 1 4 30a5 1 4 30a7 1 4 30a9",
    "1 4 30e3 1 4 30e5 1 4 30e7 1 4 30c3 1 4 30fc 1 4 30a2 1 4 30a4 1 4 30a6 1 4 30a8 1 4",
    "30aa 2 4 30ad 1 4 30af 1 4 30b1 1 4 30b3 1 4 30b5 1 4 30b7 1 4 30b9 1 4 30bb 1 4 30bd",
    "1 4 30bf 1 4 30c1 1 4 30c4 1 4 30c6 1 4 30c8 1 4 30ca 6 4 30d2 1 4 30d5 1 4 30d8 1 4",
    "30db 1 4 30de 5 4 30e4 1 4 30e6 1 4 30e8 6 4 30ef 1 4 30f3 1 4 3099 2 2 1 4 1100 2 4",
    "11aa 1 4 1102 1 4 11ac 2 4 1103 3 4 11b0 6 4 111a 1 4 1106 3 4 1121 1 4 1109 a 3 3 4",
    "1161 6 3 2 4 1167 6 3 2 4 116d 6 3 2 4 1173 3 3 3 4 a2 2 4 ac 1 6 20 304 1 4 a6 1 4 a5",
    "1 4 20a9 1 3 1 4 2502 1 4 2190 4 4 25a0 1 4 25cb 1 3 11 0 c 3 1 0 1a 3 1 0 13 3 1 0 2",
    "3 1 0 f 3 2 0 e 3 22 0 7b 3 5 0 3 3 4 0 2d 3 3 0 58 3 1 0 d 3 3 0 1 3 2f 0 2e 3 82 0",
    "1d 3 3 0 31 3 f 0 1c 3 4 0 24 3 9 0 1e 3 5 0 2b 3 5 0 1e 3 1 0 25 3 4 0 e 3 2a 4 10428",
    "28 0 76 3 2 0 a 3 6 4 104d8 24 3 4 0 24 3 4 0 28 3 8 0 34 3 b 0 1 4 10597 b 3 1 4",
    "105a3 f 3 1 4 105b3 7 3 1 4 105bb 2 3 1 0 b 3 1 0 f 3 1 0 7 3 1 0 2 3 3 0 34 3 c 0 137",
    "3 9 0 16 3 a 0 8 3 18 0 1 4 2d0 2 4 e6 1 4 299 1 4 253 1 3 1 4 2a3 1 4 ab66 1 4 2a5 1",
    "4 2a4 1 4 256 2 4 1d91 1 4 258 1 4 25e 1 4 2a9 1 4 264 1 4 262 1 4 260 1 4 29b 1 4 127",
    "1 4 29c 1 4 267 1 4 284 1 4 2aa 2 4 26c 1 4 1df04 1 4 a78e 1 4 26e 1 4 1df05 1 4 28e 1",
    "4 1df06 1 4 f8 1 4 276 2 4 71 1 4 27a 1 4 1df08 1 4 27d 2 4 280 1 4 2a8 1 4 2a6 1 4",
    "ab67 1 4 2a7 1 4 288 1 4 2c71 1 3 1 4 28f 1 4 2a1 2 4 298 1 4 1c0 3 4 1df0a 1 4 1df1e",
    "1 3 45 0 6 3 2 0 1 3 1 0 2c 3 1 0 2 3 3 0 1 3 2 0 17 3 1 0 48 3 8 0 9 3 30 0 13 3 1 0",
    "2 3 5 0 21 3 3 0 1b 3 5 0 1 3 40 0 38 3 4 0 14 3 2 0 32 3 1 0 2 3 5 0 8 3 1 0 3 3 1 0",
    "1d 3 2 0 3 3 4 0 a 3 7 0 9 3 7 0 40 3 20 0 27 3 4 0 c 3 9 0 36 3 3 0 1d 3 2 0 1b 3 5 0",
    "1a 3 7 0 4 3 c 0 7 3 50 0 49 3 37 4 10cc0 33 3 d 0 33 3 7 0 2e 3 8 0 a 3 6 0 10 4",
    "10d70 16 3 3 0 1d 3 8 0 2 3 d0 0 1f 3 1 0 2a 3 1 0 3 3 2 0 2 3 10 0 3 3 37 0 2c 3 8 0",
    "2a 3 16 0 1a 3 26 0 1c 3 14 0 17 3 9 0 4e 3 4 0 24 3 9 0 3e 3 1 0 5 3 d 0 19 3 7 0 a 3",
    "6 0 35 3 1 0 12 3 8 0 27 3 9 0 60 3 1 0 14 3 b 0 12 3 1 0 2f 3 3e 0 7 3 1 0 1 3 1 0 4",
    "3 1 0 f 3 1 0 b 3 6 0 3b 3 5 0 a 3 6 0 4 3 1 0 8 3 2 0 2 3 2 0 16 3 1 0 7 3 1 0 2 3 1",
    "0 5 3 1 0 a 3 2 0 2 3 2 0 3 3 2 0 1 3 6 0 1 3 5 0 7 3 2 0 7 3 3 0 5 3 b 0 a 3 1 0 1 3",
    "2 0 1 3 1 0 26 3 1 0 a 3 1 0 1 3 2 0 1 3 1 0 4 3 1 0 a 3 1 0 2 3 8 0 2 3 1d 0 5c 3 1 0",
    "5 3 1e 0 48 3 8 0 a 3 a6 0 36 3 2 0 26 3 22 0 45 3 b 0 a 3 6 0 d 3 13 0 3a 3 6 0 a 3 6",
    "0 14 3 1c 0 1b 3 2 0 f 3 4 0 17 3 b9 0 3c 3 64 4 118c0 20 0 33 3 c 0 8 3 2 0 1 3 2 0 8",
    "3 1 0 2 3 1 0 1e 3 1 0 2 3 2 0 c 3 9 0 a 3 46 0 8 3 2 0 2e 3 2 0 b 3 1b 0 48 3 8 0 53",
    "3 d 0 49 3 7 0 a 3 b6 0 22 3 e 0 a 3 6 0 9 3 1 0 2d 3 1 0 e 3 a 0 1d 3 3 0 20 3 2 0 16",
    "3 1 0 e 3 49 0 7 3 1 0 2 3 1 0 2c 3 3 0 1 3 1 0 2 3 1 0 9 3 8 0 a 3 6 0 6 3 1 0 2 3 1",
    "0 25 3 1 0 2 3 1 0 6 3 7 0 a 3 136 0 19 3 7 0 11 3 1 0 29 3 3 0 1d 3 55 0 1 3 f 0 32 3",
    "d 0 39b 3 66 0 6f 3 1 0 5 3 b 0 c4 3 a4c 0 63 3 d 0 430 3 10 0 16 3 a 0 f9b 3 5 0 247",
    "3 1ab9 0 3a 3 6c6 0 239 3 7 0 1f 3 1 0 a 3 4 0 51 3 1 0 a 3 6 0 1e 3 2 0 6 3 a 0 46 3",
    "a 0 a 3 1 0 7 3 1 0 15 3 5 0 13 3 1b0 0 3a 3 c6 4 16e60 20 0 3b 3 65 0 4b 3 4 0 39 3 7",
    "0 11 3 40 0 5 3 b 0 2 3 e 0 17f8 3 8 0 4d6 3 29 0 a 3 22e7 0 4 3 1 0 7 3 1 0 2 3 1 0",
    "123 3 f 0 1 3 1d 0 3 3 2 0 1 3 e 0 4 3 8 0 18c 3 904 0 6b 3 5 0 d 3 3 0 9 3 7 0 a 3 2",
    "0 4 2 4 3 f5c 0 d6 4 61 1a 4 30 a 3 6 0 1b4 3 4c 0 2e 3 2 0 17 3 9 0 74 3 3c 0 f6 3 a",
    "0 27 3 2 0 35 6 1d157 1d165 1 6 1d158 1d165 1 7 1d158 1d165 1d16e 1 7 1d158 1d165",
    "1d16f 1 7 1d158 1d165 1d170 1 7 1d158 1d165 1d171 1 7 1d158 1d165 1d172 1 0 e 2 8 0 40",
    "6 1d1b9 1d165 1 6 1d1ba 1d165 1 7 1d1b9 1d165 1d16e 1 7 1d1ba 1d165 1d16e 1 7 1d1b9",
    "1d165 1d16f 1 7 1d1ba 1d165 1d16f 1 0 2a 3 15 0 46 3 7a 0 14 3 c 0 14 3 c 0 57 3 9 0",
    "19 3 87 4 61 1a 4 61 1a 4 61 1a 4 61 7 3 1 4 69 12 4 61 1a 4 61 1a 4 61 1 3 1 4 63 2 3",
    "2 4 67 1 3 2 4 6a 2 3 2 4 6e 4 3 1 4 73 8 4 61 4 3 1 4 66 1 3 1 4 68 7 3 1 4 70 b 4 61",
    "1a 4 61 1a 4 61 2 3 1 4 64 4 3 2 4 6a 8 3 1 4 73 7 3 1 4 61 1a 4 61 2 3 1 4 64 4 3 1 4",
    "69 5 3 1 4 6f 1 3 3 4 73 7 3 1 4 61 1a 4 61 1a 4 61 1a 4 61 1a 4 61 1a 4 61 1a 4 61 1a",
    "4 61 1a 4 61 1a 4 61 1a 4 61 1a 4 61 1a 4 61 1a 4 131 1 4 237 1 3 2 4 3b1 11 4 3b8 1 4",
    "3c3 7 4 2207 1 4 3b1 11 5 3c3 2 4 3c4 6 4 2202 1 4 3b5 1 4 3b8 1 4 3ba 1 4 3c6 1 4 3c1",
    "1 4 3c0 1 4 3b1 11 4 3b8 1 4 3c3 7 4 2207 1 4 3b1 11 5 3c3 2 4 3c4 6 4 2202 1 4 3b5 1",
    "4 3b8 1 4 3ba 1 4 3c6 1 4 3c1 1 4 3c0 1 4 3b1 11 4 3b8 1 4 3c3 7 4 2207 1 4 3b1 11 5",
    "3c3 2 4 3c4 6 4 2202 1 4 3b5 1 4 3b8 1 4 3ba 1 4 3c6 1 4 3c1 1 4 3c0 1 4 3b1 11 4 3b8",
    "1 4 3c3 7 4 2207 1 4 3b1 11 5 3c3 2 4 3c4 6 4 2202 1 4 3b5 1 4 3b8 1 4 3ba 1 4 3c6 1 4",
    "3c1 1 4 3c0 1 4 3b1 11 4 3b8 1 4 3c3 7 4 2207 1 4 3b1 11 5 3c3 2 4 3c4 6 4 2202 1 4",
    "3b5 1 4 3b8 1 4 3ba 1 4 3c6 1 4 3c1 1 4 3c0 1 5 3dd 2 3 2 4 30 a 4 30 a 4 30 a 4 30 a",
    "4 30 a 0 28c 3 f 0 5 3 1 0 f 3 450 0 1f 3 6 0 6 3 d5 0 7 3 1 0 11 3 2 0 7 3 1 0 2 3 1",
    "0 5 3 5 4 430 9 4 43a 3 4 43e b 4 44b 1 4 44d 2 4 a689 1 4 4d9 1 4 456 1 4 458 1 4 4e9",
    "1 4 4af 1 4 4cf 1 4 430 9 4 43a 2 4 43e 2 4 441 1 4 443 6 4 44a 2 4 491 1 4 456 1 4",
    "455 1 4 45f 1 4 4ab 1 4 a651 1 4 4b1 1 3 21 0 1 3 70 0 2d 3 3 0 e 3 2 0 a 3 4 0 2 3",
    "140 0 1f 3 11 0 3a 3 5 0 1 3 1d0 0 2a 3 d6 0 2b 3 4 0 1 3 1e0 0 7 3 1 0 4 3 1 0 2 3 1",
    "0 f 3 1 0 c5 3 2 0 10 3 29 4 1e922 22 0 2a 3 4 0 a 3 4 0 2 3 311 0 44 3 4c 0 3d 3 c2 4",
    "627 2 4 62c 1 4 62f 1 3 1 4 648 1 4 632 1 4 62d 1 4 637 1 4 64a 1 4 643 4 4 633 1 4",
    "639 1 4 641 1 4 635 1 4 642 1 4 631 1 4 634 1 4 62a 2 4 62e 1 4 630 1 4 636 1 4 638 1",
    "4 63a 1 4 66e 1 4 6ba 1 4 6a1 1 4 66f 1 3 1 4 628 1 4 62c 1 3 1 4 647 1 3 2 4 62d 1 3",
    "1 4 64a 1 4 643 4 4 633 1 4 639 1 4 641 1 4 635 1 4 642 1 3 1 4 634 1 4 62a 2 4 62e 1",
    "3 1 4 636 1 3 1 4 63a 1 3 6 4 62c 1 3 4 4 62d 1 3 1 4 64a 1 3 1 4 644 1 3 1 4 646 1 4",
    "633 1 4 639 1 3 1 4 635 1 4 642 1 3 1 4 634 1 3 2 4 62e 1 3 1 4 636 1 3 1 4 63a 1 3 1",
    "4 6ba 1 3 1 4 66f 1 3 1 4 628 1 4 62c 1 3 1 4 647 1 3 2 4 62d 1 4 637 1 4 64a 1 4 643",
    "1 3 1 4 645 2 4 633 1 4 639 1 4 641 1 4 635 1 4 642 1 3 1 4 634 1 4 62a 2 4 62e 1 3 1",
    "4 636 1 4 638 1 4 63a 1 4 66e 1 3 1 4 6a1 1 3 1 4 627 2 4 62c 1 4 62f 1 4 647 2 4 632",
    "1 4 62d 1 4 637 1 4 64a 1 3 1 4 644 3 4 633 1 4 639 1 4 641 1 4 635 1 4 642 1 4 631 1",
    "4 634 1 4 62a 2 4 62e 1 4 630 1 4 636 1 4 638 1 4 63a 1 3 5 4 628 1 4 62c 1 4 62f 1 3",
    "1 4 648 1 4 632 1 4 62d 1 4 637 1 4 64a 1 3 1 4 644 3 4 633 1 4 639 1 4 641 1 4 635 1",
    "4 642 1 4 631 1 4 634 1 4 62a 2 4 62e 1 4 630 1 4 636 1 4 638 1 4 63a 1 3 34 0 2 3 10e",
    "0 2c 3 4 0 64 3 c 0 f 3 2 0 f 3 1 0 f 3 1 0 25 3 b 6 30 2c 1 6 31 2c 1 6 32 2c 1 6 33",
    "2c 1 6 34 2c 1 6 35 2c 1 6 36 2c 1 6 37 2c 1 6 38 2c 1 6 39 2c 1 0 5 7 28 61 29 1 7 28",
    "62 29 1 7 28 63 29 1 7 28 64 29 1 7 28 65 29 1 7 28 66 29 1 7 28 67 29 1 7 28 68 29 1",
    "7 28 69 29 1 7 28 6a 29 1 7 28 6b 29 1 7 28 6c 29 1 7 28 6d 29 1 7 28 6e 29 1 7 28 6f",
    "29 1 7 28 70 29 1 7 28 71 29 1 7 28 72 29 1 7 28 73 29 1 7 28 74 29 1 7 28 75 29 1 7",
    "28 76 29 1 7 28 77 29 1 7 28 78 29 1 7 28 79 29 1 7 28 7a 29 1 7 3014 73 3015 1 4 63 1",
    "4 72 1 6 63 64 1 6 77 7a 1 0 1 4 61 1a 6 68 76 1 6 6d 76 1 6 73 64 1 6 73 73 1 7 70 70",
    "76 1 6 77 63 1 0 1a 6 6d 63 1 6 6d 64 1 6 6d 72 1 0 23 6 64 6a 1 0 1d 3 38 0 1a 6 307b",
    "304b 1 6 30b3 30b3 1 4 30b5 1 3 d 4 624b 1 4 5b57 1 4 53cc 1 4 30c7 1 4 4e8c 1 4 591a",
    "1 4 89e3 1 4 5929 1 4 4ea4 1 4 6620 1 4 7121 1 4 6599 1 4 524d 1 4 5f8c 1 4 518d 1 4",
    "65b0 1 4 521d 1 4 7d42 1 4 751f 1 4 8ca9 1 4 58f0 1 4 5439 1 4 6f14 1 4 6295 1 4 6355",
    "1 4 4e00 1 4 4e09 1 4 904a 1 4 5de6 1 4 4e2d 1 4 53f3 1 4 6307 1 4 8d70 1 4 6253 1 4",
    "7981 1 4 7a7a 1 4 5408 1 4 6e80 1 4 6709 1 4 6708 1 4 7533 1 4 5272 1 4 55b6 1 4 914d",
    "1 3 4 7 3014 672c 3015 1 7 3014 4e09 3015 1 7 3014 4e8c 3015 1 7 3014 5b89 3015 1 7",
    "3014 70b9 3015 1 7 3014 6253 3015 1 7 3014 76d7 3015 1 7 3014 52dd 3015 1 7 3014 6557",
    "3015 1 3 7 4 5f97 1 4 53ef 1 3 e 0 6 3 9a 0 3d8 3 4 0 11 3 3 0 d 3 3 0 77 3 4 0 5f 3 6",
    "0 c 3 4 0 1 3 f 0 c 3 4 0 38 3 8 0 a 3 6 0 28 3 8 0 1e 3 2 0 c 3 4 0 2 3 3e 0 154 3 c",
    "0 e 3 2 0 d 3 3 0 a 3 5 0 38 3 7 0 f 3 2 0 b 3 6 0 9 3 7 0 93 3 1 0 5c 4 30 a 3 406 0",
    "a6e0 3 20 0 103a 3 6 0 de 3 2 0 1682 3 e 0 1d31 3 f 0 26e 3 9a2 4 4e3d 1 4 4e38 1 4",
    "4e41 1 4 20122 1 4 4f60 1 4 4fae 1 4 4fbb 1 4 5002 1 4 507a 1 4 5099 1 4 50e7 1 4 50cf",
    "1 4 349e 1 4 2063a 1 4 514d 1 4 5154 1 4 5164 1 4 5177 1 4 2051c 1 4 34b9 1 4 5167 1 4",
    "518d 1 4 2054b 1 4 5197 1 4 51a4 1 4 4ecc 1 4 51ac 1 4 51b5 1 4 291df 1 4 51f5 1 4",
    "5203 1 4 34df 1 4 523b 1 4 5246 1 4 5272 1 4 5277 1 4 3515 1 4 52c7 1 4 52c9 1 4 52e4",
    "1 4 52fa 1 4 5305 2 4 5317 1 4 5349 1 4 5351 1 4 535a 1 4 5373 1 4 537d 1 5 537f 3 4",
    "20a2c 1 4 7070 1 4 53ca 1 4 53df 1 4 20b63 1 4 53eb 1 4 53f1 1 4 5406 1 4 549e 1 4",
    "5438 1 4 5448 1 4 5468 1 4 54a2 1 4 54f6 1 4 5510 1 4 5553 1 4 5563 1 5 5584 2 4 5599",
    "1 4 55ab 1 4 55b3 1 4 55c2 1 4 5716 1 4 5606 1 4 5717 1 4 5651 1 4 5674 1 4 5207 1 4",
    "58ee 1 4 57ce 1 4 57f4 1 4 580d 1 4 578b 1 4 5832 1 4 5831 1 4 58ac 1 4 214e4 1 4 58f2",
    "1 4 58f7 1 4 5906 1 4 591a 1 4 5922 1 4 5962 1 4 216a8 1 4 216ea 1 4 59ec 1 4 5a1b 1 4",
    "5a27 1 4 59d8 1 4 5a66 1 4 36ee 1 4 36fc 1 4 5b08 1 5 5b3e 2 4 219c8 1 4 5bc3 1 4 5bd8",
    "1 4 5be7 1 4 5bf3 1 4 21b18 1 4 5bff 1 4 5c06 1 4 5f53 1 4 5c22 1 4 3781 1 4 5c60 1 4",
    "5c6e 1 4 5cc0 1 4 5c8d 1 4 21de4 1 4 5d43 1 4 21de6 1 4 5d6e 1 4 5d6b 1 4 5d7c 1 4",
    "5de1 2 4 382f 1 4 5dfd 1 4 5e28 1 4 5e3d 1 4 5e69 1 4 3862 1 4 22183 1 4 387c 1 4 5eb0",
    "1 4 5eb3 1 4 5eb6 1 4 5eca 1 4 2a392 1 4 5efe 1 5 22331 2 4 8201 1 5 5f22 2 4 38c7 1 4",
    "232b8 1 4 261da 1 4 5f62 1 4 5f6b 1 4 38e3 1 4 5f9a 1 4 5fcd 1 4 5fd7 1 4 5ff9 1 4",
    "6081 1 4 393a 1 4 391c 1 4 6094 1 4 226d4 1 4 60c7 1 4 6148 1 4 614c 1 4 614e 1 4 614c",
    "1 4 617a 1 4 618e 1 4 61b2 1 4 61a4 1 4 61af 1 4 61de 1 4 61f2 1 4 61f6 1 4 6210 1 4",
    "621b 1 4 625d 1 4 62b1 1 4 62d4 1 4 6350 1 4 22b0c 1 4 633d 1 4 62fc 1 4 6368 1 4 6383",
    "1 4 63e4 1 4 22bf1 1 4 6422 1 4 63c5 1 4 63a9 1 4 3a2e 1 4 6469 1 4 647e 1 4 649d 1 4",
    "6477 1 4 3a6c 1 4 654f 1 4 656c 1 4 2300a 1 4 65e3 1 4 66f8 1 4 6649 1 4 3b19 1 4 6691",
    "1 4 3b08 1 4 3ae4 1 4 5192 1 4 5195 1 4 6700 1 4 669c 1 4 80ad 1 4 43d9 1 4 6717 1 4",
    "671b 1 4 6721 1 4 675e 1 4 6753 1 4 233c3 1 4 3b49 1 4 67fa 1 4 6785 1 4 6852 1 4 6885",
    "1 4 2346d 1 4 688e 1 4 681f 1 4 6914 1 4 3b9d 1 4 6942 1 4 69a3 1 4 69ea 1 4 6aa8 1 4",
    "236a3 1 4 6adb 1 4 3c18 1 4 6b21 1 4 238a7 1 4 6b54 1 4 3c4e 1 4 6b72 1 4 6b9f 1 4",
    "6bba 2 4 23a8d 1 4 21d0b 1 4 23afa 1 4 6c4e 1 4 23cbc 1 4 6cbf 1 4 6ccd 1 4 6c67 1 4",
    "6d16 1 4 6d3e 1 4 6d77 1 4 6d41 1 4 6d69 1 4 6d78 1 4 6d85 1 4 23d1e 1 4 6d34 1 4 6e2f",
    "1 4 6e6e 1 4 3d33 1 4 6ecb 1 4 6ec7 1 4 23ed1 1 4 6df9 1 4 6f6e 1 4 23f5e 1 4 23f8e 1",
    "4 6fc6 1 4 7039 1 4 701e 1 4 701b 1 4 3d96 1 4 704a 1 4 707d 1 4 7077 1 4 70ad 1 4",
    "20525 1 4 7145 1 4 24263 1 4 719c 1 4 243ab 1 4 7228 1 4 7235 1 4 7250 1 4 24608 1 4",
    "7280 1 4 7295 1 4 24735 1 4 24814 1 4 737a 1 4 738b 1 4 3eac 1 4 73a5 1 5 3eb8 2 4",
    "7447 1 4 745c 1 4 7471 1 4 7485 1 4 74ca 1 4 3f1b 1 4 7524 1 4 24c36 1 4 753e 1 4",
    "24c92 1 4 7570 1 4 2219f 1 4 7610 1 4 24fa1 1 4 24fb8 1 4 25044 1 4 3ffc 1 4 4008 1 4",
    "76f4 1 4 250f3 1 4 250f2 1 4 25119 1 4 25133 1 4 771e 1 5 771f 2 4 774a 1 4 4039 1 4",
    "778b 1 4 4046 1 4 4096 1 4 2541d 1 4 784e 1 4 788c 1 4 78cc 1 4 40e3 1 4 25626 1 4",
    "7956 1 4 2569a 1 4 256c5 1 4 798f 1 4 79eb 1 4 412f 1 4 7a40 1 4 7a4a 1 4 7a4f 1 4",
    "2597c 1 5 25aa7 2 4 7aee 1 4 4202 1 4 25bab 1 4 7bc6 1 4 7bc9 1 4 4227 1 4 25c80 1 4",
    "7cd2 1 4 42a0 1 4 7ce8 1 4 7ce3 1 4 7d00 1 4 25f86 1 4 7d63 1 4 4301 1 4 7dc7 1 4 7e02",
    "1 4 7e45 1 4 4334 1 4 26228 1 4 26247 1 4 4359 1 4 262d9 1 4 7f7a 1 4 2633e 1 4 7f95 1",
    "4 7ffa 1 4 8005 1 4 264da 1 4 26523 1 4 8060 1 4 265a8 1 4 8070 1 4 2335f 1 4 43d5 1 4",
    "80b2 1 4 8103 1 4 440b 1 4 813e 1 4 5ab5 1 4 267a7 1 4 267b5 1 4 23393 1 4 2339c 1 4",
    "8201 1 4 8204 1 4 8f9e 1 4 446b 1 4 8291 1 4 828b 1 4 829d 1 4 52b3 1 4 82b1 1 4 82b3",
    "1 4 82bd 1 4 82e6 1 4 26b3c 1 4 82e5 1 4 831d 1 4 8363 1 4 83ad 1 4 8323 1 4 83bd 1 4",
    "83e7 1 4 8457 1 4 8353 1 4 83ca 1 4 83cc 1 4 83dc 1 4 26c36 1 4 26d6b 1 4 26cd5 1 4",
    "452b 1 4 84f1 1 4 84f3 1 4 8516 1 4 273ca 1 4 8564 1 4 26f2c 1 4 455d 1 4 4561 1 4",
    "26fb1 1 4 270d2 1 4 456b 1 4 8650 1 4 865c 1 4 8667 1 4 8669 1 4 86a9 1 4 8688 1 4",
    "870e 1 4 86e2 1 4 8779 1 4 8728 1 4 876b 1 4 8786 1 4 45d7 1 4 87e1 1 4 8801 1 4 45f9",
    "1 4 8860 1 4 8863 1 4 27667 1 4 88d7 1 4 88de 1 4 4635 1 4 88fa 1 4 34bb 1 4 278ae 1 4",
    "27966 1 4 46be 1 4 46c7 1 4 8aa0 1 4 8aed 1 4 8b8a 1 4 8c55 1 4 27ca8 1 4 8cab 1 4",
    "8cc1 1 4 8d1b 1 4 8d77 1 4 27f2f 1 4 20804 1 4 8dcb 1 4 8dbc 1 4 8df0 1 4 208de 1 4",
    "8ed4 1 4 8f38 1 4 285d2 1 4 285ed 1 4 9094 1 4 90f1 1 4 9111 1 4 2872e 1 4 911b 1 4",
    "9238 1 4 92d7 2 4 927c 1 4 93f9 1 4 9415 1 4 28bfa 1 4 958b 1 4 4995 1 4 95b7 1 4",
    "28d77 1 4 49e6 1 4 96c3 1 4 5db2 1 4 9723 1 4 29145 1 4 2921a 1 4 4a6e 1 4 4a76 1 4",
    "97e0 1 4 2940a 1 4 4ab2 1 4 29496 1 5 980b 2 4 9829 1 4 295b6 1 4 98e2 1 4 4b33 1 4",
    "9929 1 4 99a7 1 4 99c2 1 4 99fe 1 4 4bce 1 4 29b30 1 4 9b12 1 4 9c40 1 4 9cfd 1 4 4cce",
    "1 4 4ced 1 4 9d67 1 4 2a0ce 1 4 4cf8 1 4 2a105 1 4 2a20e 1 4 2a291 1 4 9ebb 1 4 4d56 1",
    "4 9ef9 1 4 9efe 1 4 9f05 1 4 9f0f 1 4 9f16 1 4 9f3b 1 4 2a600 1 3 5e2 0 134b 3 5 0",
    "1060 3 add50 2 f0 3"]) 0 #[]

def idnaStatus (c : Char) : IdnaStatus :=
  match runIndex idnaRuns c.toNat with
  | some i =>
    match idnaRuns[i]? with
    | some (_, .all s) => s
    | some (start, .shifted first) => .mapped [Char.ofNat (first + (c.toNat - start))]
    | none => .disallowed
  | none => .disallowed

end HtmlMarkdown
