import HtmlMarkdown.Pattern.Program

namespace HtmlMarkdown.Pattern

/-- A thread: its place in the program and the positions its capture slots hold. -/
structure Thread where
  pc : Nat
  slots : Array (Option Nat)

def wordAt (unicode : Bool) (input : Array Char) (pos : Nat) : Bool :=
  match input[pos]? with
  | some c => if unicode then isWordChar c else asciiWordClass.contains c
  | none => false

/-- Whether a word test holds between a side that is a word character or not and another. -/
def WordTest.holds (t : WordTest) (before after : Bool) : Bool :=
  match t with
  | .boundary => before != after
  | .notBoundary => before == after
  | .start => !before && after
  | .finish => before && !after
  | .startHalf => !before
  | .finishHalf => !after

/-- Whether a condition holds at a position; under `crlf` a carriage return also ends a line. -/
def Look.holds (l : Look) (input : Array Char) (pos : Nat) : Bool :=
  match l with
  | .textStart => pos == 0
  | .textEnd => pos == input.size
  | .lineStart crlf =>
    pos == 0 || input[pos - 1]? == some '\n' ||
      (crlf && input[pos - 1]? == some '\r' && input[pos]? != some '\n')
  | .lineEnd crlf =>
    pos == input.size || (crlf && input[pos]? == some '\r') ||
      (input[pos]? == some '\n' && (!crlf || pos == 0 || input[pos - 1]? != some '\r'))
  | .word t unicode => t.holds (pos != 0 && wordAt unicode input (pos - 1)) (wordAt unicode input pos)

def Inst.takes (i : Inst) (c : Char) : Bool :=
  match i with
  | .char d => c == d
  | .cls set => set.contains c
  | _ => false

def target (pc : Nat) (offset : Int) : Nat := (pc + offset).toNat

/-- The threads at one position: which addresses are taken, and the threads in priority order. -/
structure Frontier where
  seen : Array Bool
  threads : Array Thread

def addThread (prog : Array Inst) (input : Array Char) (pos : Nat) :
    Nat → Frontier → Nat → Array (Option Nat) → Frontier
  | 0, f, _, _ => f
  | fuel + 1, f, pc, slots =>
    if f.seen[pc]?.getD true then f
    else
      let f := { f with seen := f.seen.setIfInBounds pc true }
      match prog[pc]? with
      | none => f
      | some (.split a b) =>
        addThread prog input pos fuel (addThread prog input pos fuel f (target pc a) slots)
          (target pc b) slots
      | some (.jump a) => addThread prog input pos fuel f (target pc a) slots
      | some (.save k) => addThread prog input pos fuel f (pc + 1) (slots.setIfInBounds k (some pos))
      | some (.look l) => if l.holds input pos then addThread prog input pos fuel f (pc + 1) slots else f
      | some _ => { f with threads := f.threads.push ⟨pc, slots⟩ }

def Frontier.empty (prog : Array Inst) : Frontier := ⟨Array.replicate prog.size false, #[]⟩

def stepThreads (prog : Array Inst) (input : Array Char) (pos : Nat) :
    List Thread → Frontier → Frontier × Option (Array (Option Nat))
  | [], next => (next, none)
  | t :: ts, next =>
    match prog[t.pc]? with
    | some .done => (next, some t.slots)
    | some i =>
      match input[pos]? with
      | some c =>
        if i.takes c then
          stepThreads prog input pos ts (addThread prog input (pos + 1) (prog.size + 1) next (t.pc + 1) t.slots)
        else stepThreads prog input pos ts next
      | none => stepThreads prog input pos ts next
    | none => stepThreads prog input pos ts next

def runFrom (re : Regex) (input : Array Char) (empty : Array (Option Nat)) :
    Nat → Nat → Frontier → Option (Array (Option Nat)) → Option (Array (Option Nat))
  | 0, _, _, best => best
  | fuel + 1, pos, current, best =>
    let (next, found) := stepThreads re.program input pos current.threads.toList
      (Frontier.empty re.program)
    let best := found.or best
    if input.size ≤ pos then best
    else
      let next := if best.isNone then
          addThread re.program input (pos + 1) (re.program.size + 1) next 0 empty
        else next
      if best.isSome && next.threads.isEmpty then best
      else runFrom re input empty fuel (pos + 1) next best

def Regex.findAt (re : Regex) (input : Array Char) (start : Nat) : Option (Array (Option Nat)) :=
  if input.size < start then none
  else
    let empty := Array.replicate (2 * re.groups + 2) none
    let first := addThread re.program input start (re.program.size + 1)
      (Frontier.empty re.program) 0 empty
    runFrom re input empty (input.size - start + 2) start first none

def matchBounds (slots : Array (Option Nat)) : Nat × Nat :=
  ((slots[0]?).join.getD 0, (slots[1]?).join.getD 0)

def Regex.nextMatch (re : Regex) (input : Array Char) (pos : Nat) (lastEnd : Option Nat) :
    Option (Array (Option Nat)) :=
  match re.findAt input pos with
  | none => none
  | some slots =>
    let (s, e) := matchBounds slots
    if s == e && lastEnd == some e then re.findAt input (pos + 1) else some slots

inductive GroupRef where
  | number (n : Nat)
  | name (s : String)

def isRefChar (c : Char) : Bool := c.isAlphanum || c == '_'

def GroupRef.ofText (cs : List Char) : GroupRef :=
  let digits := match cs with
    | '+' :: ds => ds
    | ds => ds
  if !digits.isEmpty && digits.all Char.isDigit then
    let n := digits.foldl (fun acc d => acc * 10 + (d.toNat - '0'.toNat)) 0
    if n < 18446744073709551616 then .number n else .name (String.ofList cs)
  else .name (String.ofList cs)

def readGroupRef (rest : List Char) :
    Option (GroupRef × {r : List Char // r.length ≤ rest.length}) :=
  match rest with
  | '{' :: more =>
    match h : more.dropWhile (· != '}') with
    | '}' :: after =>
      some (GroupRef.ofText (more.takeWhile (· != '}')), ⟨after, by
        have := (List.dropWhile_suffix (· != '}') (l := more)).length_le
        rw [h] at this
        simp at this ⊢
        omega⟩)
    | _ => none
  | other =>
    let name := other.takeWhile isRefChar
    if name.isEmpty then none
    else some (GroupRef.ofText name, ⟨other.dropWhile isRefChar, (List.dropWhile_suffix _).length_le⟩)

def expandReplacement (group : GroupRef → List Char) : List Char → List Char
  | [] => []
  | '$' :: '$' :: rest => '$' :: expandReplacement group rest
  | '$' :: rest =>
    match readGroupRef rest with
    | some (r, ⟨after, _⟩) => group r ++ expandReplacement group after
    | none => '$' :: expandReplacement group rest
  | c :: rest => c :: expandReplacement group rest
termination_by cs => cs.length
decreasing_by all_goals simp_wf <;> omega

def numberedText (input : Array Char) (slots : Array (Option Nat)) (n : Nat) : List Char :=
  match (slots[2 * n]?).join, (slots[2 * n + 1]?).join with
  | some s, some e => (input.extract s e).toList
  | _, _ => []

def groupText (re : Regex) (input : Array Char) (slots : Array (Option Nat)) : GroupRef → List Char
  | .number n => numberedText input slots n
  | .name s =>
    match re.names.find? (·.1 == s) with
    | some (_, n) => numberedText input slots n
    | none => []

/-- Replaces every match, left to right, by its expanded replacement. -/
def Regex.replaceAll (re : Regex) (replacement : String) (text : String) : String :=
  let input := text.toList.toArray
  let template := replacement.toList
  let rec go (fuel : Nat) (pos copied : Nat) (lastEnd : Option Nat) (out : List Char) : List Char :=
    match fuel with
    | 0 => out ++ (input.extract copied input.size).toList
    | fuel + 1 =>
      match re.nextMatch input pos lastEnd with
      | none => out ++ (input.extract copied input.size).toList
      | some slots =>
        let (s, e) := matchBounds slots
        let out := out ++ (input.extract copied s).toList ++
          expandReplacement (groupText re input slots) template
        go fuel e e (some e) out
  String.ofList (go (input.size + 2) 0 0 none [])

end HtmlMarkdown.Pattern
