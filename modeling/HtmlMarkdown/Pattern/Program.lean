import HtmlMarkdown.Pattern.Size

namespace HtmlMarkdown.Pattern

/-- One step of a matching program. -/
inductive Inst where
  | char (c : Char)
  | cls (c : CharClass)
  | look (l : Look)
  | save (slot : Nat)
  | split (first second : Int)
  | jump (offset : Int)
  | done
  deriving Inhabited

mutual
def Expr.canBeEmpty : Expr → Bool
  | .empty => true
  | .literal _ => false
  | .cls _ => false
  | .look _ => true
  | .capture _ e => e.canBeEmpty
  | .concat es => allCanBeEmpty es
  | .alt es => anyCanBeEmpty es
  | .rep e least _ _ => least == 0 || e.canBeEmpty

def allCanBeEmpty : List Expr → Bool
  | [] => true
  | e :: es => e.canBeEmpty && allCanBeEmpty es

def anyCanBeEmpty : List Expr → Bool
  | [] => false
  | e :: es => e.canBeEmpty || anyCanBeEmpty es
end

/-- A fork between the next instruction and `skip` ahead, in the order that greed asks. -/
def fork (greedy : Bool) (skip : Int) : Inst :=
  if greedy then .split 1 skip else .split skip 1

def plusCode (greedy : Bool) (body : List Inst) : List Inst :=
  let back : Int := -(body.length : Int)
  body ++ [if greedy then .split back 1 else .split 1 back]

def starCode (greedy : Bool) (body : List Inst) : List Inst :=
  [fork greedy (body.length + 2)] ++ body ++ [.jump (-((body.length : Int) + 1))]

def optionalCopies (greedy : Bool) (body : List Inst) (k : Nat) : List Inst :=
  (List.range k).flatMap fun i => fork greedy (((k - i) * (body.length + 1) : Nat) : Int) :: body

def repCode (body : List Inst) (empty : Bool) (least : Nat) (most : Option Nat) (greedy : Bool) :
    List Inst :=
  match most with
  | some m => (List.replicate least body).flatten ++ optionalCopies greedy body (m - least)
  | none =>
    match least with
    | 0 =>
      if empty then
        let p := plusCode greedy body
        fork greedy (p.length + 1) :: p
      else starCode greedy body
    | n + 1 => (List.replicate n body).flatten ++ plusCode greedy body

mutual
def Expr.code : Expr → List Inst
  | .empty => []
  | .literal c => [.char c]
  | .cls c => [.cls c]
  | .look l => [.look l]
  | .capture i e => [.save (2 * i)] ++ e.code ++ [.save (2 * i + 1)]
  | .concat es => concatCode es
  | .alt es => altCode es
  | .rep e least most greedy =>
    if e.shape.maxLen == some 0 then
      repCode e.code true (min least 1) (some ((most.getD 1).min 1)) greedy
    else repCode e.code e.canBeEmpty least most greedy

def concatCode : List Expr → List Inst
  | [] => []
  | e :: es => e.code ++ concatCode es

def altCode : List Expr → List Inst
  | [] => []
  | [e] => e.code
  | e :: f :: es =>
    let b := e.code
    let r := altCode (f :: es)
    [.split 1 (b.length + 2)] ++ b ++ [.jump (r.length + 1)] ++ r
end

/-- A pattern ready to run: its text, its program, its number of groups and their names. -/
structure Regex where
  source : String
  program : Array Inst
  groups : Nat
  names : List (String × Nat)

def Regex.compile (source : String) : Except Unit Regex :=
  match parse source with
  | .error e => .error e
  | .ok p =>
    if p.expr.tooLarge then .error ()
    else .ok ⟨source, (p.expr.code ++ [Inst.done]).toArray, p.groups, p.names⟩

end HtmlMarkdown.Pattern
