import HtmlMarkdown.Pattern.Property

namespace HtmlMarkdown.Pattern

/-- The word tests of a pattern: boundaries, word starts and ends, and their halves. -/
inductive WordTest where
  | boundary
  | notBoundary
  | start
  | finish
  | startHalf
  | finishHalf
  deriving DecidableEq, Repr

/-- Conditions on a position that take no character. -/
inductive Look where
  | textStart
  | textEnd
  | lineStart (crlf : Bool)
  | lineEnd (crlf : Bool)
  | word (test : WordTest) (unicode : Bool)
  deriving DecidableEq, Repr

/-- A pattern as a tree. `empty` stands where flags were set, and matches the empty text. -/
inductive Expr where
  | empty
  | literal (c : Char)
  | cls (c : CharClass)
  | look (l : Look)
  | capture (index : Nat) (e : Expr)
  | concat (es : List Expr)
  | alt (es : List Expr)
  | rep (e : Expr) (least : Nat) (most : Option Nat) (greedy : Bool)
  deriving Inhabited

structure Flags where
  caseless : Bool
  multiLine : Bool
  dotAll : Bool
  swapGreed : Bool
  verbose : Bool
  unicode : Bool
  crlf : Bool

/-- The flags at the start of a pattern: only Unicode is on. -/
def Flags.initial : Flags := ⟨false, false, false, false, false, true, false⟩

/-- Skips white space and comments (from `#` to the end of the line) when `verbose`. -/
def skipSpace (verbose : Bool) (cs : List Char) : List Char :=
  if verbose then go false cs else cs
where
  go (inComment : Bool) : List Char → List Char
    | [] => []
    | c :: rest =>
      if inComment then go (c != '\n') rest
      else if isWhite c then go false rest
      else if c == '#' then go true rest
      else c :: rest

def peekSpace (verbose : Bool) : List Char → Option Char
  | [] => none
  | _ :: rest => if verbose then go false rest else rest.head?
where
  go (seenHash : Bool) : List Char → Option Char
    | [] => none
    | c :: rest =>
      if isWhite c then go seenHash rest
      else if !seenHash && c == '#' then go true rest
      else some c

inductive PerlKind where
  | digit
  | white
  | word

/-- What a backslash introduces: a character, a class by letter, a property class or a condition. -/
inductive Escaped where
  | char (c : Char) (byte : Bool)
  | perl (kind : PerlKind) (negated : Bool)
  | property (cls : CharClass) (negated : Bool)
  | look (l : Look)
  | word (t : WordTest)

def hexValue? (c : Char) : Option Nat :=
  if '0' ≤ c && c ≤ '9' then some (c.toNat - '0'.toNat)
  else if 'a' ≤ c && c ≤ 'f' then some (c.toNat - 'a'.toNat + 10)
  else if 'A' ≤ c && c ≤ 'F' then some (c.toNat - 'A'.toNat + 10)
  else none

def hexNumber? (ds : List Char) : Option Nat :=
  ds.foldlM (fun acc d => (hexValue? d).map (acc * 16 + ·)) 0

def scalar? (n : Nat) : Option Char :=
  if n < 0xD800 || (0xDFFF < n && n ≤ 0x10FFFF) then some (Char.ofNat n) else none

def readBracedHex (verbose : Bool) : Nat → List Char → List Char → Option (List Char × List Char)
  | 0, _, _ => none
  | fuel + 1, ds, cs =>
    match skipSpace verbose cs with
    | [] => none
    | '}' :: after => some (ds.reverse, after)
    | d :: rest => if (hexValue? d).isSome then readBracedHex verbose fuel (d :: ds) rest else none

def readFixedHex (verbose : Bool) : Nat → List Char → List Char → Option (List Char × List Char)
  | 0, ds, cs => some (ds.reverse, cs)
  | n + 1, ds, cs =>
    match cs with
    | d :: rest =>
      if (hexValue? d).isSome then
        readFixedHex verbose n (d :: ds) (if n == 0 then rest else skipSpace verbose rest)
      else none
    | [] => none

def readHexEscape (verbose : Bool) (width : Nat) (cs : List Char) :
    Except Unit (Escaped × List Char) :=
  match skipSpace verbose cs with
  | '{' :: rest =>
    match readBracedHex verbose (rest.length + 1) [] rest with
    | some (ds, after) =>
      if ds.isEmpty then .error () else
      match (hexNumber? ds).bind scalar? with
      | some c => .ok (.char c false, skipSpace verbose after)
      | none => .error ()
    | none => .error ()
  | cs =>
    match readFixedHex verbose width [] cs with
    | some (ds, after) =>
      match (hexNumber? ds).bind scalar? with
      | some c => .ok (.char c (width == 2), skipSpace verbose after)
      | none => .error ()
    | none => .error ()

def breakAt (sep : List Char) : List Char → Option (List Char × List Char)
  | [] => none
  | c :: rest =>
    if sep.isPrefixOf (c :: rest) then some ([], (c :: rest).drop sep.length)
    else (breakAt sep rest).map fun (a, b) => (c :: a, b)

def propertyBody? (body : List Char) : Option (CharClass × Bool) :=
  match breakAt ['!', '='] body with
  | some (n, v) => (valuedClass? (String.ofList n) (String.ofList v)).map (·, true)
  | none =>
    match breakAt [':'] body with
    | some (n, v) => (valuedClass? (String.ofList n) (String.ofList v)).map (·, false)
    | none =>
      match breakAt ['='] body with
      | some (n, v) => (valuedClass? (String.ofList n) (String.ofList v)).map (·, false)
      | none => (namedClass? (String.ofList body)).map (·, false)

def readUntilBrace (verbose : Bool) : Nat → List Char → List Char → Option (List Char × List Char)
  | 0, _, _ => none
  | fuel + 1, acc, cs =>
    match skipSpace verbose cs with
    | [] => none
    | '}' :: after => some (acc.reverse, after)
    | c :: rest => readUntilBrace verbose fuel (c :: acc) rest

def readPropertyEscape (verbose negated : Bool) (cs : List Char) :
    Except Unit (Escaped × List Char) :=
  match skipSpace verbose cs with
  | [] => .error ()
  | '{' :: rest =>
    match readUntilBrace verbose (rest.length + 1) [] rest with
    | some (body, after) =>
      match propertyBody? body with
      | some (cls, flip) => .ok (.property cls (negated != flip), after)
      | none => .error ()
    | none => .error ()
  | '\\' :: _ => .error ()
  | c :: rest =>
    match namedClass? (String.singleton c) with
    | some cls => .ok (.property cls negated, skipSpace verbose rest)
    | none => .error ()

def isMetaChar (c : Char) : Bool := "\\.+*?()|[]{}^$#&-~".toList.contains c

def isEscapable (c : Char) : Bool :=
  isMetaChar c || (c.toNat < 0x80 && !c.isAlphanum && c != '<' && c != '>')

def readWordTestName (verbose : Bool) : Nat → List Char → List Char → List Char × List Char
  | 0, acc, cs => (acc.reverse, cs)
  | fuel + 1, acc, cs =>
    match cs with
    | c :: rest =>
      if c.isAlpha || c == '-' then readWordTestName verbose fuel (c :: acc) (skipSpace verbose rest)
      else (acc.reverse, cs)
    | [] => (acc.reverse, cs)

def readWordBoundary (verbose : Bool) (cs : List Char) : Except Unit (Escaped × List Char) :=
  match cs with
  | '{' :: more =>
    match skipSpace verbose more with
    | [] => .error ()
    | inner@(c :: _) =>
      if !(c.isAlpha || c == '-') then .ok (.word .boundary, cs)
      else
        match readWordTestName verbose (inner.length + 1) [] inner with
        | (name, '}' :: after) =>
          match String.ofList name with
          | "start" => .ok (.word .start, after)
          | "end" => .ok (.word .finish, after)
          | "start-half" => .ok (.word .startHalf, after)
          | "end-half" => .ok (.word .finishHalf, after)
          | _ => .error ()
        | _ => .error ()
  | _ => .ok (.word .boundary, cs)

/-- Reads what follows a backslash. Digits are refused: there are no back references. -/
def readEscape (verbose : Bool) : List Char → Except Unit (Escaped × List Char)
  | [] => .error ()
  | c :: rest =>
    match c with
    | 'x' => readHexEscape verbose 2 rest
    | 'u' => readHexEscape verbose 4 rest
    | 'U' => readHexEscape verbose 8 rest
    | 'p' => readPropertyEscape verbose false rest
    | 'P' => readPropertyEscape verbose true rest
    | 'd' => .ok (.perl .digit false, rest)
    | 'D' => .ok (.perl .digit true, rest)
    | 's' => .ok (.perl .white false, rest)
    | 'S' => .ok (.perl .white true, rest)
    | 'w' => .ok (.perl .word false, rest)
    | 'W' => .ok (.perl .word true, rest)
    | 'a' => .ok (.char (Char.ofNat 7) false, rest)
    | 'f' => .ok (.char (Char.ofNat 12) false, rest)
    | 't' => .ok (.char '\t' false, rest)
    | 'n' => .ok (.char '\n' false, rest)
    | 'r' => .ok (.char '\r' false, rest)
    | 'v' => .ok (.char (Char.ofNat 11) false, rest)
    | 'A' => .ok (.look .textStart, rest)
    | 'z' => .ok (.look .textEnd, rest)
    | 'b' => readWordBoundary verbose rest
    | 'B' => .ok (.word .notBoundary, rest)
    | '<' => .ok (.word .start, rest)
    | '>' => .ok (.word .finish, rest)
    | _ => if isEscapable c then .ok (.char c false, rest) else .error ()

def foldFor (f : Flags) (c : CharClass) : CharClass :=
  if !f.caseless then c
  else if f.unicode then .caseFold c
  else .inter (.caseFold c) .ascii

def foldAndNegate (f : Flags) (negated : Bool) (c : CharClass) : Except Unit CharClass :=
  let c := foldFor f c
  if !negated then .ok c
  else if f.unicode then .ok (.complement c)
  else .error ()

/-- The set that `\d`, `\s` or `\w` names under the flags, negated for `\D`, `\S`, `\W`. -/
def perlClass (f : Flags) (k : PerlKind) (negated : Bool) : Except Unit CharClass :=
  if f.unicode then
    let c := match k with
      | .digit => CharClass.digit
      | .white => .white
      | .word => .word
    .ok (if negated then .complement c else c)
  else if negated then .error ()
  else .ok (match k with
    | .digit => asciiDigitClass
    | .white => asciiWhiteClass
    | .word => asciiWordClass)

def propertyClass (f : Flags) (c : CharClass) (negated : Bool) : Except Unit CharClass :=
  if f.unicode then foldAndNegate f negated c else .error ()

def classChar (f : Flags) (c : Char) : Except Unit Char :=
  if !f.unicode && 0x7F < c.toNat then .error () else .ok c

def asciiClass? (name : String) : Option CharClass :=
  let r (pairs : List (Nat × Nat)) := some (CharClass.ranges pairs)
  match name with
  | "alnum" => r [(48, 57), (65, 90), (97, 122)]
  | "alpha" => r [(65, 90), (97, 122)]
  | "ascii" => r [(0, 127)]
  | "blank" => r [(9, 9), (32, 32)]
  | "cntrl" => r [(0, 31), (127, 127)]
  | "digit" => r [(48, 57)]
  | "graph" => r [(33, 126)]
  | "lower" => r [(97, 122)]
  | "print" => r [(32, 126)]
  | "punct" => r [(33, 47), (58, 64), (91, 96), (123, 126)]
  | "space" => r [(9, 13), (32, 32)]
  | "upper" => r [(65, 90)]
  | "word" => r [(48, 57), (65, 90), (95, 95), (97, 122)]
  | "xdigit" => r [(48, 57), (65, 70), (97, 102)]
  | _ => none

def asciiClassAt (cs : List Char) : Option (CharClass × Bool × List Char) :=
  match cs with
  | ':' :: named =>
    match named.dropWhile (· != ':') with
    | ':' :: ']' :: after =>
      let (neg, name) := match named.takeWhile (· != ':') with
        | '^' :: n => (true, n)
        | n => (false, n)
      (asciiClass? (String.ofList name)).map (·, neg, after)
    | _ => none
  | _ => none

inductive ClassOp where
  | inter
  | diff
  | symdiff

def ClassOp.apply : ClassOp → CharClass → CharClass → CharClass
  | .inter, a, b => .inter a b
  | .diff, a, b => .diff a b
  | .symdiff, a, b => .symdiff a b

def finishOperand (f : Flags) (items : List CharClass) (left : Option (CharClass × ClassOp)) :
    CharClass :=
  match left with
  | some (l, op) => op.apply (foldFor f l) (foldFor f (CharClass.unionAll items.reverse))
  | none => CharClass.unionAll items.reverse

def openClass (verbose : Bool) (cs : List Char) :
    Except Unit (Bool × List CharClass × List Char) :=
  let cs := skipSpace verbose cs
  let (neg, cs) := match cs with
    | '^' :: rest => (true, skipSpace verbose rest)
    | _ => (false, cs)
  let (dashes, cs) := go cs.length [] cs
  if cs.isEmpty then .error ()
  else if dashes.isEmpty then
    match cs with
    | ']' :: rest =>
      let rest := skipSpace verbose rest
      if rest.isEmpty then .error () else .ok (neg, [CharClass.single ']'], rest)
    | _ => .ok (neg, dashes, cs)
  else .ok (neg, dashes, cs)
where
  go : Nat → List CharClass → List Char → List CharClass × List Char
    | 0, acc, cs => (acc, cs)
    | fuel + 1, acc, cs =>
      match cs with
      | '-' :: rest => go fuel (CharClass.single '-' :: acc) (skipSpace verbose rest)
      | _ => (acc, cs)

def readClassPrim (verbose : Bool) : List Char → Except Unit (Escaped × List Char)
  | '\\' :: rest => readEscape verbose rest
  | c :: rest => .ok (.char c false, rest)
  | [] => .error ()

def itemClass (f : Flags) : Escaped → Except Unit CharClass
  | .char c _ => (classChar f c).map CharClass.single
  | .perl k neg => perlClass f k neg
  | .property c neg => propertyClass f c neg
  | .look _ => .error ()
  | .word _ => .error ()

def operandDepth (count deepest : Nat) : Nat :=
  if 2 ≤ count then deepest + 1 else if count == 1 then deepest else 0

def setDepth (count deepest : Nat) (left : Option (CharClass × ClassOp × Nat)) : Nat :=
  match left with
  | some (_, _, d) => max d (operandDepth count deepest) + 1
  | none => operandDepth count deepest

def readClassBody (f : Flags) (fuel : Nat) (items : List CharClass) (deepest : Nat)
    (left : Option (CharClass × ClassOp × Nat)) (cs : List Char) :
    Except Unit (CharClass × Nat × List Char) :=
  match fuel with
  | 0 => .error ()
  | fuel + 1 =>
    let v := f.verbose
    let operand := finishOperand f items (left.map fun (l, op, _) => (l, op))
    let depth := setDepth items.length deepest left
    let add (c : CharClass) (d : Nat) (rest : List Char) :=
      readClassBody f fuel (c :: items) (max deepest d) left rest
    match skipSpace v cs with
    | [] => .error ()
    | ']' :: rest => .ok (operand, depth, rest)
    | '[' :: rest =>
      match asciiClassAt rest with
      | some (c, neg, after) =>
        match foldAndNegate f neg c with
        | .ok c => add c 0 after
        | .error e => .error e
      | none =>
        match openClass v rest with
        | .error e => .error e
        | .ok (neg, start, body) =>
          match readClassBody f fuel start 0 none body with
          | .error e => .error e
          | .ok (inner, d, after) =>
            match foldAndNegate f neg inner with
            | .ok c => add c (d + 1) after
            | .error e => .error e
    | '&' :: '&' :: rest => readClassBody f fuel [] 0 (some (operand, .inter, depth)) rest
    | '-' :: '-' :: rest => readClassBody f fuel [] 0 (some (operand, .diff, depth)) rest
    | '~' :: '~' :: rest => readClassBody f fuel [] 0 (some (operand, .symdiff, depth)) rest
    | here =>
      match readClassPrim v here with
      | .error e => .error e
      | .ok (first, rest) =>
        let rest := skipSpace v rest
        match rest with
        | [] => .error ()
        | '-' :: afterDash =>
          if peekSpace v rest == some ']' || peekSpace v rest == some '-' then
            match itemClass f first with
            | .ok c => add c 0 rest
            | .error e => .error e
          else
            match first, readClassPrim v (skipSpace v afterDash) with
            | .char lo _, .ok (.char hi _, after) =>
              if hi.toNat < lo.toNat then .error ()
              else
                match classChar f lo, classChar f hi with
                | .ok lo, .ok hi => add (.ranges [(lo.toNat, hi.toNat)]) 0 after
                | _, _ => .error ()
            | _, _ => .error ()
        | _ =>
          match itemClass f first with
          | .ok c => add c 0 rest
          | .error e => .error e

/-- Reads a bracket expression after its `[`: the set, its nesting depth and the rest of the text.
-/
def readClass (f : Flags) (cs : List Char) : Except Unit (CharClass × Nat × List Char) :=
  match openClass f.verbose cs with
  | .error e => .error e
  | .ok (neg, start, body) =>
    match readClassBody f (cs.length + 1) start 0 none body with
    | .error e => .error e
    | .ok (c, d, after) =>
      match foldAndNegate f neg c with
      | .ok c => .ok (c, d + 1, after)
      | .error e => .error e

end HtmlMarkdown.Pattern
