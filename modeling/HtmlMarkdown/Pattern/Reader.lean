import HtmlMarkdown.Pattern.Syntax

namespace HtmlMarkdown.Pattern

/-- A group being read: its branches, the current branch's items (latest first), its capture and
flags. -/
structure Frame where
  branches : List Expr
  items : List Expr
  capture : Option Nat
  outer : Flags
  branchDepths : List Nat := []
  itemDepths : List Nat := []

def nestLimit : Nat := 250

def sequenceDepth (ds : List Nat) : Nat :=
  match ds with
  | [] => 0
  | [d] => d
  | _ => ds.foldl max 0 + 1

/-- How deeply a group's inside nests: a choice is one level deeper than its deepest branch. -/
def Frame.depth (f : Frame) : Nat :=
  match f.branchDepths with
  | [] => sequenceDepth f.itemDepths
  | bs => (bs.foldl max (sequenceDepth f.itemDepths)) + 1

structure Reader where
  stack : List Frame
  cur : Frame
  flags : Flags
  groups : Nat
  names : List (String × Nat)

def branchOf (items : List Expr) : Expr :=
  match items.reverse with
  | [e] => e
  | es => .concat es

def Frame.close (f : Frame) : Expr :=
  let body := match f.branches with
    | [] => branchOf f.items
    | bs => .alt (bs ++ [branchOf f.items])
  match f.capture with
  | some i => .capture i body
  | none => body

def Reader.push (r : Reader) (e : Expr) (depth : Nat) : Reader :=
  { r with cur := { r.cur with items := e :: r.cur.items, itemDepths := depth :: r.cur.itemDepths } }

def countLimit : Nat := 4294967295

def readDigits (verbose : Bool) : Nat → List Char → List Char → List Char × List Char
  | 0, ds, cs => (ds.reverse, cs)
  | fuel + 1, ds, cs =>
    match cs with
    | d :: rest =>
      if d.isDigit then readDigits verbose fuel (d :: ds) (skipSpace verbose rest)
      else (ds.reverse, cs)
    | [] => (ds.reverse, cs)

def readCountNumber (verbose : Bool) (cs : List Char) : Option Nat × List Char :=
  let cs := cs.dropWhile isWhite
  let (ds, cs) := readDigits verbose (cs.length + 1) [] cs
  let cs := match cs with
    | c :: _ => if isWhite c then (if verbose then skipSpace true cs else cs.dropWhile isWhite)
      else cs
    | [] => cs
  let n := ds.foldl (fun acc d => acc * 10 + (d.toNat - '0'.toNat)) 0
  (if ds.isEmpty || countLimit < n then none else some n, cs)

def readCount (verbose : Bool) (cs : List Char) :
    Option ((Nat × Option Nat × Bool) × List Char) :=
  let (low, rest) := readCountNumber verbose (skipSpace verbose cs)
  let bounds : Option ((Nat × Option Nat) × List Char) :=
    match rest with
    | ',' :: more =>
      match skipSpace verbose more with
      | [] => none
      | '}' :: after => low.map fun n => ((n, none), '}' :: after)
      | other =>
        match low, readCountNumber verbose other with
        | some n, (some m, after) => if n ≤ m then some ((n, some m), after) else none
        | _, _ => none
    | [] => none
    | other => low.map fun n => ((n, some n), other)
  match bounds with
  | some (b, '}' :: after) =>
    match skipSpace verbose after with
    | '?' :: more => some ((b.1, b.2, true), skipSpace verbose more)
    | more => some ((b.1, b.2, false), more)
  | _ => none

def Reader.repeatLast (r : Reader) (least : Nat) (most : Option Nat) (lazy : Bool) :
    Except Unit Reader :=
  match r.cur.items with
  | [] => .error ()
  | .empty :: _ => .error ()
  | e :: more =>
    let greedy := lazy == r.flags.swapGreed
    let depths := match r.cur.itemDepths with
      | d :: ds => (d + 1) :: ds
      | [] => []
    .ok { r with cur := { r.cur with items := .rep e least most greedy :: more, itemDepths := depths } }

def isNameChar (first : Bool) (c : Char) : Bool :=
  let alphabetic := inRanges ((binaryProperties.find? (·.names.head? == some "Alphabetic")).map
    (·.ranges) |>.getD #[]) c.toNat
  if first then c == '_' || alphabetic
  else
    c == '_' || c == '.' || c == '[' || c == ']' || alphabetic ||
      Category.decimalNumber.contains c.toNat || Category.letterNumber.contains c.toNat ||
      Category.otherNumber.contains c.toNat

def validName (name : List Char) : Bool :=
  match name with
  | [] => false
  | c :: rest => isNameChar true c && rest.all (isNameChar false)

def applyFlags (f : Flags) (letters : List Char) : Option Flags :=
  let step := fun (acc : Option (Flags × Bool × List Char)) (c : Char) =>
    acc.bind fun (f, on, seen) =>
      if seen.contains c then none
      else
        let seen := c :: seen
        match c with
        | '-' => some (f, false, seen)
        | 'i' => some ({ f with caseless := on }, on, seen)
        | 'm' => some ({ f with multiLine := on }, on, seen)
        | 's' => some ({ f with dotAll := on }, on, seen)
        | 'U' => some ({ f with swapGreed := on }, on, seen)
        | 'x' => some ({ f with verbose := on }, on, seen)
        | 'u' => some ({ f with unicode := on }, on, seen)
        | 'R' => some ({ f with crlf := on }, on, seen)
        | _ => none
  if letters.getLast? = some '-' then none
  else (letters.foldl step (some (f, true, []))).map (·.1)

def Reader.openCapture (r : Reader) (name : Option String) : Except Unit Reader :=
  let index := r.groups + 1
  let names := match name with
    | some n => (n, index) :: r.names
    | none => r.names
  if name.any fun n => r.names.any (·.1 == n) then .error ()
  else .ok { r with stack := r.cur :: r.stack,
                    cur := { branches := [], items := [], capture := some index, outer := r.flags },
                    groups := index, names := names }

def Reader.openNamed (r : Reader) (rest : List Char) : Except Unit (Reader × List Char) :=
  let name := rest.takeWhile (· != '>')
  match rest.dropWhile (· != '>') with
  | '>' :: after =>
    if validName name then (r.openCapture (some (String.ofList name))).map (·, after)
    else .error ()
  | _ => .error ()

def Reader.openGroup (r : Reader) (cs : List Char) : Except Unit (Reader × List Char) :=
  match skipSpace r.flags.verbose cs with
  | '?' :: '=' :: _ | '?' :: '!' :: _ | '?' :: '<' :: '=' :: _ | '?' :: '<' :: '!' :: _ => .error ()
  | '?' :: 'P' :: '<' :: rest | '?' :: '<' :: rest => r.openNamed rest
  | '?' :: rest =>
    let letters := rest.takeWhile fun c => c != ')' && c != ':'
    match rest.dropWhile (fun c => c != ')' && c != ':') with
    | ')' :: after =>
      if letters.isEmpty then .error () else
      match applyFlags r.flags letters with
      | some f => .ok ({ r.push .empty 0 with flags := f }, after)
      | none => .error ()
    | ':' :: after =>
      match applyFlags r.flags letters with
      | some f => .ok ({ r with stack := r.cur :: r.stack,
                                cur := { branches := [], items := [], capture := none,
                                         outer := r.flags },
                                flags := f }, after)
      | none => .error ()
    | _ => .error ()
  | cs => (r.openCapture none).map (·, cs)

def Reader.closeGroup (r : Reader) : Except Unit Reader :=
  match r.stack with
  | [] => .error ()
  | parent :: more =>
    .ok { r with stack := more,
                 cur := { parent with items := r.cur.close :: parent.items,
                                      itemDepths := (r.cur.depth + 1) :: parent.itemDepths },
                 flags := r.cur.outer }

def literalExpr (f : Flags) (c : Char) (byte : Bool) : Except Unit Expr :=
  if !f.unicode && byte && 0x7F < c.toNat then .error ()
  else if !f.caseless then .ok (.literal c)
  else if f.unicode then
    if (caseFoldClass c).length > 1 then .ok (.cls (.caseFold (.single c))) else .ok (.literal c)
  else if ('a' ≤ c && c ≤ 'z') || ('A' ≤ c && c ≤ 'Z') then
    .ok (.cls (.inter (.caseFold (.single c)) .ascii))
  else .ok (.literal c)

def dotExpr (f : Flags) : Except Unit Expr :=
  if !f.unicode then .error ()
  else if f.dotAll then .ok (.cls .any)
  else if f.crlf then .ok (.cls (.complement (.ranges [(10, 10), (13, 13)])))
  else .ok (.cls (.complement (.ranges [(10, 10)])))

def escapeExpr (f : Flags) : Escaped → Except Unit Expr
  | .char c byte => literalExpr f c byte
  | .perl k neg => (perlClass f k neg).map .cls
  | .property c neg => (propertyClass f c neg).map .cls
  | .look l => .ok (.look l)
  | .word t => .ok (.look (.word t f.unicode))

/-- Reads a pattern, one construct per step. -/
def Reader.run (fuel : Nat) (r : Reader) (cs : List Char) : Except Unit Reader :=
  match fuel with
  | 0 => .error ()
  | fuel + 1 =>
    let flags := r.flags
    let push (e : Except Unit Expr) (rest : List Char) : Except Unit Reader :=
      match e with
      | .ok e => (r.push e 0).run fuel rest
      | .error e => .error e
    let repeatThen (least : Nat) (most : Option Nat) (rest : List Char) : Except Unit Reader :=
      let (lazy, rest) := match rest with
        | '?' :: after => (true, after)
        | _ => (false, rest)
      match r.repeatLast least most lazy with
      | .ok r => r.run fuel rest
      | .error e => .error e
    match skipSpace flags.verbose cs with
    | [] => .ok r
    | c :: rest =>
      match c with
      | '(' => match r.openGroup rest with
        | .ok (r, after) => r.run fuel after
        | .error e => .error e
      | ')' => match r.closeGroup with
        | .ok r => r.run fuel rest
        | .error e => .error e
      | '|' =>
        let cur := r.cur
        Reader.run fuel { r with cur := { cur with branches := cur.branches ++ [branchOf cur.items],
                                                   items := [],
                                                   branchDepths := cur.branchDepths ++
                                                     [sequenceDepth cur.itemDepths],
                                                   itemDepths := [] } } rest
      | '*' => repeatThen 0 none rest
      | '+' => repeatThen 1 none rest
      | '?' => repeatThen 0 (some 1) rest
      | '{' => match readCount flags.verbose rest with
        | some ((least, most, lazy), after) => match r.repeatLast least most lazy with
          | .ok r => r.run fuel after
          | .error e => .error e
        | none => .error ()
      | '[' => match readClass flags rest with
        | .ok (cls, depth, after) => (r.push (.cls cls) depth).run fuel after
        | .error e => .error e
      | '\\' => match readEscape flags.verbose rest with
        | .ok (esc, after) => push (escapeExpr flags esc) after
        | .error e => .error e
      | '.' => push (dotExpr flags) rest
      | '^' => push (.ok (.look (if flags.multiLine then .lineStart flags.crlf else .textStart))) rest
      | '$' => push (.ok (.look (if flags.multiLine then .lineEnd flags.crlf else .textEnd))) rest
      | _ => push (literalExpr flags c false) rest

/-- A pattern read in full: its tree (group 0 the whole match), its group count and group names. -/
structure Parsed where
  expr : Expr
  groups : Nat
  names : List (String × Nat)

def parse (source : String) : Except Unit Parsed :=
  let start : Reader :=
    ⟨[], { branches := [], items := [], capture := none, outer := Flags.initial }, Flags.initial,
      0, []⟩
  match start.run (source.length + 1) source.toList with
  | .error e => .error e
  | .ok r =>
    if r.stack.isEmpty && r.cur.depth ≤ nestLimit then .ok ⟨.capture 0 r.cur.close, r.groups, r.names⟩
    else .error ()

end HtmlMarkdown.Pattern
