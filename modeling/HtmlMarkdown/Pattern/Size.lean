import HtmlMarkdown.Pattern.Reader
import HtmlMarkdown.Text.Utf8
import Std.Data.HashMap

namespace HtmlMarkdown.Pattern

def normalizeRanges (rs : List (Nat × Nat)) : List (Nat × Nat) :=
  let sorted := (rs.filter fun (a, b) => a ≤ b).mergeSort fun p q => p.1 ≤ q.1
  (sorted.foldl (fun acc (a, b) =>
    match acc with
    | (x, y) :: rest => if a ≤ y + 1 then (x, max y b) :: rest else (a, b) :: acc
    | [] => [(a, b)]) []).reverse

def complementRanges (rs : List (Nat × Nat)) : List (Nat × Nat) :=
  let (acc, next) := rs.foldl (fun (acc, next) (a, b) =>
    (if next < a then (next, a - 1) :: acc else acc, b + 1)) ([], 0)
  (if next ≤ 0x10FFFF then (next, 0x10FFFF) :: acc else acc).reverse

def interRanges (xs ys : List (Nat × Nat)) : List (Nat × Nat) :=
  complementRanges (normalizeRanges (complementRanges xs ++ complementRanges ys))

def memRanges (rs : List (Nat × Nat)) (n : Nat) : Bool := rs.any fun (a, b) => a ≤ n && n ≤ b

def foldRanges (rs : List (Nat × Nat)) : List (Nat × Nat) :=
  let arr := rs.toArray
  let extra := caseFoldLinks.toList.filterMap fun (a, _) =>
    if inRanges arr a then some a else none
  normalizeRanges (rs ++ extra.flatMap fun a =>
    (caseFoldClass (Char.ofNat a)).map fun c => (c.toNat, c.toNat))

def CharClass.toRanges : CharClass → List (Nat × Nat)
  | .ranges rs => normalizeRanges rs
  | .table t => t.toList
  | .word => wordRanges.toList
  | .digit => digitRanges.toList
  | .white => [(9, 13), (32, 32), (0x85, 0x85), (0xA0, 0xA0), (0x1680, 0x1680), (0x2000, 0x200A),
      (0x2028, 0x2029), (0x202F, 0x202F), (0x205F, 0x205F), (0x3000, 0x3000)]
  | .union a b => normalizeRanges (a.toRanges ++ b.toRanges)
  | .inter a b => interRanges a.toRanges b.toRanges
  | .diff a b => interRanges a.toRanges (complementRanges b.toRanges)
  | .symdiff a b =>
    let x := a.toRanges
    let y := b.toRanges
    normalizeRanges (interRanges x (complementRanges y) ++ interRanges y (complementRanges x))
  | .complement a => complementRanges a.toRanges
  | .caseFold a => foldRanges a.toRanges

def splitRange (s e : Nat) : Option ((Nat × Nat) × (Nat × Nat)) :=
  if s < 0xE000 && 0xD7FF < e then some ((s, 0xD7FF), (0xE000, e))
  else
    match [0x7F, 0x7FF, 0xFFFF].find? fun m => s ≤ m && m < e with
    | some m => some ((s, m), (m + 1, e))
    | none =>
      if e ≤ 0x7F then none
      else
        [64, 4096, 262144].findSome? fun w =>
          if s / w != e / w then
            if s % w != 0 then some ((s, s - s % w + w - 1), (s - s % w + w, e))
            else if e % w != w - 1 then some ((s, e - e % w - 1), (e - e % w, e))
            else none
          else none

def utf8SequencesOf : Nat → List (Nat × Nat) → List (List (Nat × Nat)) → List (List (Nat × Nat))
  | 0, _, acc => acc.reverse
  | _, [], acc => acc.reverse
  | fuel + 1, (s, e) :: stack, acc =>
    if e < s then utf8SequencesOf fuel stack acc
    else
      match splitRange s e with
      | some (first, second) => utf8SequencesOf fuel (first :: second :: stack) acc
      | none => utf8SequencesOf fuel stack ((utf8Bytes s).zip (utf8Bytes e) :: acc)

def utf8Sequences (s e : Nat) : List (List (Nat × Nat)) := utf8SequencesOf 64 [(s, e)] []

abbrev Transition := Nat × Nat × Nat

/-- The trie of byte sequences under construction, equal states made once. -/
structure Trie where
  made : Std.HashMap (List Transition) Nat
  next : Nat
  memory : Nat
  pending : Array (List Transition × Option (Nat × Nat))

def Trie.make (t : Trie) (edges : List Transition) : Trie × Nat :=
  match t.made[edges]? with
  | some id => (t, id)
  | none =>
    ({ t with made := t.made.insert edges t.next, next := t.next + 1,
              memory := t.memory + 32 + 8 * edges.length }, t.next)

def finishLast (node : List Transition × Option (Nat × Nat)) (target : Nat) :
    List Transition × Option (Nat × Nat) :=
  match node with
  | (edges, some (a, b)) => (edges ++ [(a, b, target)], none)
  | (edges, none) => (edges, none)

def Trie.closeFrom (t : Trie) (keep : Nat) : Trie :=
  go t.pending.size t 0
where
  go : Nat → Trie → Nat → Trie
    | 0, t, target => { t with pending := t.pending.modify (t.pending.size - 1) (finishLast · target) }
    | fuel + 1, t, target =>
      if keep + 1 < t.pending.size then
        let node := finishLast (t.pending.back?.getD ([], none)) target
        let t := { t with pending := t.pending.pop }
        let (t, id) := t.make node.1
        go fuel t id
      else { t with pending := t.pending.modify (t.pending.size - 1) (finishLast · target) }

def sharedPrefix (pending : Array (List Transition × Option (Nat × Nat))) (seq : List (Nat × Nat)) :
    Nat :=
  ((seq.zip pending.toList).takeWhile fun (r, node) => node.2 == some r).length

/-- Adds a byte sequence, greater than all added before, to the trie. -/
def Trie.add (t : Trie) (seq : List (Nat × Nat)) : Trie :=
  let keep := sharedPrefix t.pending seq
  let t := t.closeFrom keep
  match seq.drop keep with
  | [] => t
  | first :: rest =>
    let pending := t.pending.modify (t.pending.size - 1) fun (edges, _) => (edges, some first)
    { t with pending := rest.foldl (fun acc r => acc.push ([], some r)) pending }

def forwardClassCost (rs : List (Nat × Nat)) : Nat × Nat :=
  let start : Trie := ⟨{}, 1, 32, #[([], none)]⟩
  let t := (rs.flatMap fun (a, b) => utf8Sequences a b).foldl Trie.add start
  let t := t.closeFrom 0
  let (t, _) := t.make (t.pending.back?.getD ([], none)).1
  (t.next, t.memory)

abbrev Chains := Std.HashMap (Nat × Nat × Nat) Nat × Nat

def Chains.add (c : Chains) (seq : List (Nat × Nat)) : Chains :=
  let (made, next, _) := seq.foldl (fun (made, next, here) (a, b) =>
    match made[(here, a, b)]? with
    | some id => (made, next, id)
    | none => (made.insert (here, a, b) next, next + 1, next)) (c.1, c.2, 1)
  (made, next)

def reverseClassCost (rs : List (Nat × Nat)) : Nat × Nat :=
  let seqs := rs.flatMap fun (a, b) => utf8Sequences a b
  let (_, next) := seqs.foldl Chains.add ({}, 2)
  (next, 32 * next + 4 * seqs.length)

def trieGroups (words : List (List Nat)) : List (List (Nat × List (List Nat))) :=
  let step := fun (acc : List (List (Nat × List (List Nat))) × List (Nat × List (List Nat)) × Bool)
      (w : List Nat) =>
    let (closed, current, branched) := acc
    match w with
    | [] => if !branched && !closed.isEmpty then acc else (closed ++ [current], [], branched)
    | b :: rest =>
      let current :=
        if current.any (·.1 == b) then current.map fun (c, ws) => if c == b then (c, ws ++ [rest]) else (c, ws)
        else (current.filter (·.1 < b)) ++ [(b, [rest])] ++ current.filter (b < ·.1)
      (closed, current, true)
  let (closed, current, _) := words.foldl step ([], [], false)
  closed ++ [current]

def trieCost : Nat → List (List Nat) → Nat
  | 0, _ => 0
  | fuel + 1, words =>
    let groups := trieGroups words
    let (ways, memory, _) := groups.foldl (fun (ways, memory, later) group =>
      let ways := if later then ways + 1 else ways
      let memory := group.foldl (fun m (_, ws) =>
        if ws.all (·.isEmpty) then m else m + trieCost fuel ws) memory
      match group.length with
      | 0 => (ways, memory, true)
      | 1 => (ways + 1, memory + 32, true)
      | k => (ways + 1, memory + 32 + 8 * k, true)) (0, 0, false)
    memory + 32 + 4 * ways

/-- A pattern as its automaton is built from it. -/
inductive Shape where
  | empty
  | lit (cs : List Char)
  | set (rs : List (Nat × Nat))
  | fail
  | look (l : Look)
  | group (index : Nat) (s : Shape)
  | seq (ss : List Shape)
  | choice (ss : List Shape)
  | loop (s : Shape) (least : Nat) (most : Option Nat) (greedy : Bool)
  deriving Inhabited

mutual
def Shape.same : Shape → Shape → Bool
  | .empty, .empty => true
  | .lit a, .lit b => a == b
  | .set a, .set b => a == b
  | .fail, .fail => true
  | .look a, .look b => a == b
  | .group i a, .group j b => i == j && a.same b
  | .seq a, .seq b => Shape.sameAll a b
  | .choice a, .choice b => Shape.sameAll a b
  | .loop a i m g, .loop b j n h => i == j && m == n && g == h && a.same b
  | _, _ => false

def Shape.sameAll : List Shape → List Shape → Bool
  | [], [] => true
  | a :: as, b :: bs => a.same b && Shape.sameAll as bs
  | _, _ => false
end

def addLength : Option Nat → Option Nat → Option Nat
  | some a, some b => some (a + b)
  | _, _ => none

mutual
/-- The most bytes a shape can match, if it is bounded. -/
def Shape.maxLen : Shape → Option Nat
  | .empty => some 0
  | .lit cs => some (cs.foldl (fun n c => n + utf8Length c.toNat) 0)
  | .set rs => rs.getLast?.map fun (_, b) => utf8Length b
  | .fail => none
  | .look _ => some 0
  | .group _ s => s.maxLen
  | .seq ss => Shape.maxLenSeq ss
  | .choice ss => Shape.maxLenChoice ss
  | .loop s _ most _ => most.bind fun m => s.maxLen.map (· * m)

def Shape.maxLenSeq : List Shape → Option Nat
  | [] => some 0
  | s :: ss => addLength s.maxLen (Shape.maxLenSeq ss)

def Shape.maxLenChoice : List Shape → Option Nat
  | [] => some 0
  | s :: ss => match s.maxLen, Shape.maxLenChoice ss with
    | some a, some b => some (max a b)
    | _, _ => none
end

mutual
def Shape.minLen : Shape → Option Nat
  | .empty => some 0
  | .lit cs => some (cs.foldl (fun n c => n + utf8Length c.toNat) 0)
  | .set rs => rs.head?.map fun (a, _) => utf8Length a
  | .fail => none
  | .look _ => some 0
  | .group _ s => s.minLen
  | .seq ss => Shape.minLenSeq ss
  | .choice ss => Shape.minLenChoice ss
  | .loop s least _ _ => s.minLen.map (· * least)

def Shape.minLenSeq : List Shape → Option Nat
  | [] => some 0
  | s :: ss => addLength s.minLen (Shape.minLenSeq ss)

def Shape.minLenChoice : List Shape → Option Nat
  | [] => none
  | [s] => s.minLen
  | s :: ss => match s.minLen, Shape.minLenChoice ss with
    | some a, some b => some (min a b)
    | _, _ => none
end

def Shape.ofSet (rs : List (Nat × Nat)) : Shape :=
  match rs with
  | [] => .fail
  | [(a, b)] => if a == b then .lit [Char.ofNat a] else .set rs
  | _ => .set rs

def Shape.seqOf (ss : List Shape) : Shape :=
  let flat := ss.flatMap fun
    | .seq xs => xs
    | .empty => []
    | s => [s]
  let joined := flat.foldr (fun s acc => match s, acc with
    | .lit a, .lit b :: rest => .lit (a ++ b) :: rest
    | s, acc => s :: acc) []
  match joined with
  | [] => .empty
  | [s] => s
  | _ => .seq joined

def singleChars : List Shape → Option (List Char)
  | [] => some []
  | .lit [c] :: ss => (singleChars ss).map (c :: ·)
  | _ => none

def setRanges : List Shape → Option (List (Nat × Nat))
  | [] => some []
  | .set rs :: ss => (setRanges ss).map (rs ++ ·)
  | _ => none

def seqItems : List Shape → Option (List (List Shape))
  | [] => some []
  | .seq xs :: ss => (seqItems ss).map (xs :: ·)
  | _ => none

def commonStart (first : List Shape) (rest : List (List Shape)) : Nat :=
  rest.foldl (fun n xs => ((first.take n).zip xs).takeWhile (fun (a, b) => a.same b) |>.length)
    first.length

def Shape.choiceOf : Nat → List Shape → Shape
  | fuel, ss =>
    let flat := ss.flatMap fun
      | .choice xs => xs
      | s => [s]
    match flat with
    | [] => .fail
    | [s] => s
    | _ =>
      match singleChars flat, setRanges flat with
      | some cs, _ => Shape.ofSet (normalizeRanges (cs.map fun c => (c.toNat, c.toNat)))
      | none, some rs => Shape.ofSet (normalizeRanges rs)
      | none, none =>
        match fuel, seqItems flat with
        | fuel + 1, some (first :: rest) =>
          let n := commonStart first rest
          if n == 0 then .choice flat
          else
            Shape.seqOf (first.take n ++
              [Shape.choiceOf fuel ((first :: rest).map fun xs => Shape.seqOf (xs.drop n))])
        | _, _ => .choice flat

def Shape.loopOf (s : Shape) (least : Nat) (most : Option Nat) (greedy : Bool) : Shape :=
  let (least, most) :=
    if s.maxLen == some 0 then (min least 1, some ((most.getD 1).min 1)) else (least, most)
  if least == 0 && most == some 0 then .empty
  else if least == 1 && most == some 1 then s
  else .loop s least most greedy

def liftDepth : Nat := 64

mutual
def Expr.shape : Expr → Shape
  | .empty => .empty
  | .literal c => .lit [c]
  | .cls c => Shape.ofSet c.toRanges
  | .look l => .look l
  | .capture i e => .group i e.shape
  | .concat es => Shape.seqOf (Expr.shapes es)
  | .alt es => Shape.choiceOf liftDepth (Expr.shapes es)
  | .rep e least most greedy => Shape.loopOf e.shape least most greedy

def Expr.shapes : List Expr → List Shape
  | [] => []
  | e :: es => e.shape :: Expr.shapes es
end

def literalWords : List Shape → Option (List (List Nat))
  | [] => some []
  | .lit cs :: ss => (literalWords ss).map ((cs.flatMap fun c => utf8Bytes c.toNat) :: ·)
  | _ => none

def setCost (backwards : Bool) (rs : List (Nat × Nat)) : Nat :=
  if rs.all (fun (_, b) => b ≤ 0x7F) then 64 + 8 * rs.length
  else if backwards then (reverseClassCost rs).2
  else (forwardClassCost rs).2

mutual
def Shape.cost (backwards : Bool) : Shape → Nat
  | .empty => 32
  | .lit cs => 32 * cs.foldl (fun n c => n + utf8Length c.toNat) 0
  | .set rs => setCost backwards rs
  | .fail => 64
  | .look _ => 32
  | .group _ s => (if backwards then 0 else 64) + s.cost backwards
  | .seq ss => Shape.costSeq backwards ss
  | .choice ss =>
    match literalWords ss with
    | some words =>
      32 + trieCost (words.foldl (fun n w => max n w.length) 0 + 1)
        (if backwards then words.map List.reverse else words)
    | none => 64 + 4 * ss.length + Shape.costSeq backwards ss
  | .loop s least most _ =>
    let body := s.cost backwards
    match least, most with
    | 0, some 1 => body + 72
    | 0, none => if s.minLen.any (0 < ·) then body + 40 else body + 112
    | n, none => body * n + 40
    | n, some m =>
      if n == m then body * n
      else (if n == 0 then 32 else body * n) + 32 + (m - n) * (body + 40)

def Shape.costSeq (backwards : Bool) : List Shape → Nat
  | [] => 0
  | s :: ss => s.cost backwards + Shape.costSeq backwards ss
end

mutual
def Shape.anchoredStart : Shape → Bool
  | .look l => l == .textStart
  | .group _ s => s.anchoredStart
  | .seq ss => Shape.anchoredStartSeq ss
  | .choice ss => Shape.anchoredStartAll ss
  | .loop s least _ _ => 0 < least && s.anchoredStart
  | _ => false

def Shape.anchoredStartSeq : List Shape → Bool
  | [] => false
  | s :: ss => s.anchoredStart || (s.maxLen == some 0 && Shape.anchoredStartSeq ss)

def Shape.anchoredStartAll : List Shape → Bool
  | [] => true
  | s :: ss => s.anchoredStart && Shape.anchoredStartAll ss
end

mutual
def Shape.anchoredEnd : Shape → Bool
  | .look l => l == .textEnd
  | .group _ s => s.anchoredEnd
  | .seq ss => Shape.anchoredEndSeq ss
  | .choice ss => Shape.anchoredEndAll ss
  | .loop s least _ _ => 0 < least && s.anchoredEnd
  | _ => false

def Shape.anchoredEndSeq : List Shape → Bool
  | [] => false
  | s :: ss => Shape.anchoredEndSeq ss || (Shape.maxLenSeq ss == some 0 && s.anchoredEnd)

def Shape.anchoredEndAll : List Shape → Bool
  | [] => true
  | s :: ss => s.anchoredEnd && Shape.anchoredEndAll ss
end

def automatonLimit : Nat := 10485760

def automatonSizes (s : Shape) : Nat × Nat :=
  let body := match s with
    | .group 0 b => b
    | b => b
  let lead (anchored : Bool) : Nat := if anchored then 32 else 108
  (lead body.anchoredStart + 64 + body.cost false + 32,
   lead body.anchoredEnd + body.cost true + 32)

/-- Whether a pattern's automata are too large to build. -/
def Expr.tooLarge (e : Expr) : Bool :=
  let (forward, backward) := automatonSizes e.shape
  automatonLimit < forward || automatonLimit < backward

end HtmlMarkdown.Pattern
