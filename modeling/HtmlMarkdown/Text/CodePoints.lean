namespace HtmlMarkdown

def inRanges (t : Array (Nat × Nat)) (n : Nat) : Bool :=
  go 0 t.size
where
  go (lo hi : Nat) : Bool :=
    if lo < hi then
      let mid := (lo + hi) / 2
      match t[mid]? with
      | none => false
      | some (a, b) =>
        if n < a then go lo mid
        else if b < n then go (mid + 1) hi
        else true
    else false
  termination_by hi - lo

def hexDigitValue? (c : Char) : Option Nat :=
  if '0' ≤ c && c ≤ '9' then some (c.toNat - '0'.toNat)
  else if 'a' ≤ c && c ≤ 'f' then some (c.toNat - 'a'.toNat + 10)
  else none

def hexNumbers (cs : List Char) : List Nat :=
  go cs none []
where
  go : List Char → Option Nat → List Nat → List Nat
    | [], cur, acc => (cur.toList ++ acc).reverse
    | c :: rest, cur, acc =>
      match hexDigitValue? c with
      | some v => go rest (some ((cur.getD 0) * 16 + v)) acc
      | none => go rest none (cur.toList ++ acc)

def rangesOfSteps : List Nat → Nat → Array (Nat × Nat) → Array (Nat × Nat)
  | gap :: len :: rest, next, acc =>
    rangesOfSteps rest (next + gap + len + 1) (acc.push (next + gap, next + gap + len))
  | _, _, acc => acc

def tableNumbers (lines : List String) : List Nat := hexNumbers (" ".intercalate lines).toList

/-- The ranges that a table written as lines of text describes. -/
def unpackRanges (lines : List String) : Array (Nat × Nat) :=
  rangesOfSteps (tableNumbers lines) 0 #[]

example : unpackRanges ["30 9", "7 19"] = #[(0x30, 0x39), (0x41, 0x5A)] := by
  decide

def pairsOf : List Nat → Array (Nat × Nat) → Array (Nat × Nat)
  | a :: b :: rest, acc => pairsOf rest (acc.push (a, b))
  | _, acc => acc

def lookupPair (t : Array (Nat × Nat)) (n : Nat) : Option Nat :=
  go 0 t.size
where
  go (lo hi : Nat) : Option Nat :=
    if lo < hi then
      let mid := (lo + hi) / 2
      match t[mid]? with
      | none => none
      | some (a, b) =>
        if n < a then go lo mid
        else if a < n then go (mid + 1) hi
        else some b
    else none
  termination_by hi - lo

/-- Runs from pairs of numbers: each run's start past the one before, and its value. -/
def runsOfSteps : List Nat → Nat → Array (Nat × Nat) → Array (Nat × Nat)
  | gap :: value :: rest, start, acc =>
    runsOfSteps rest (start + gap) (acc.push (start + gap, value))
  | _, _, acc => acc

/-- The index of the last entry of `t` that starts at or before `n`, by bisection. -/
def runIndex {α : Type} (t : Array (Nat × α)) (n : Nat) : Option Nat :=
  go 0 t.size none
where
  go (lo hi : Nat) (best : Option Nat) : Option Nat :=
    if lo < hi then
      let mid := (lo + hi) / 2
      match t[mid]? with
      | none => best
      | some (a, _) => if a ≤ n then go (mid + 1) hi (some mid) else go lo mid best
    else best
  termination_by hi - lo

end HtmlMarkdown
