import HtmlMarkdown.Markup.Domain
import HtmlMarkdown.Text.Rest
import HtmlMarkdown.Text.White

namespace HtmlMarkdown

def splitScheme (cs : List Char) : Option (List Char × List Char) :=
  match cs with
  | c :: rest =>
    if c.isAlpha then
      let body := rest.takeWhile fun d => d.isAlphanum || d == '+' || d == '-' || d == '.'
      match rest.dropWhile fun d => d.isAlphanum || d == '+' || d == '-' || d == '.' with
      | ':' :: after => some ((c :: body).map Char.toLower, after)
      | _ => none
    else none
  | [] => none

def isForbiddenHostChar (c : Char) : Bool :=
  "\x00\t\n\r #/:<>?@[\\]^|".toList.contains c

def validPort (cs : List Char) : Bool :=
  cs.all Char.isDigit &&
    cs.foldl (fun acc d => min (acc * 10 + (d.toNat - '0'.toNat)) 100000) 0 ≤ 65535

def ipv4Part? (cs : List Char) : Option Nat :=
  let digitsIn (base : Nat) (ds : List Char) : Option Nat :=
    ds.foldlM (fun acc d =>
      let v := if d.isDigit then d.toNat - '0'.toNat
        else if 'a' ≤ d && d ≤ 'f' then d.toNat - 'a'.toNat + 10
        else if 'A' ≤ d && d ≤ 'F' then d.toNat - 'A'.toNat + 10
        else 99
      if v < base then some (acc * base + v) else none) 0
  match cs with
  | [] => none
  | '0' :: x :: rest => if x == 'x' || x == 'X' then digitsIn 16 rest else digitsIn 8 (x :: rest)
  | ds => digitsIn 10 ds

def endsInNumber (host : List Char) : Bool :=
  let labels := (String.ofList host).splitOn "."
  let labels := if labels.getLast? == some "" && 1 < labels.length then labels.dropLast else labels
  match labels.getLast? with
  | some last =>
    let l := last.toList
    (!l.isEmpty && l.all Char.isDigit) ||
      (match l with
       | '0' :: x :: hex => (x == 'x' || x == 'X') && hex.all Char.isHexDigit
       | _ => false)
  | none => false

def validIpv4 (host : List Char) : Bool :=
  let parts := (String.ofList host).splitOn "."
  let parts := if parts.getLast? == some "" && 1 < parts.length then parts.dropLast else parts
  if parts.length > 4 then false
  else
    match parts.mapM fun p => ipv4Part? p.toList with
    | none => false
    | some nums =>
      let n := nums.length
      (nums.dropLast.all (· ≤ 255)) && (nums.getLast?.getD 0 < Nat.pow 256 (5 - n))

def dottedNumber (cs : List Char) : Option (List Char) :=
  let ds := cs.takeWhile Char.isDigit
  let value := ds.foldl (fun acc d => acc * 10 + (d.toNat - '0'.toNat)) 0
  if ds.isEmpty || (1 < ds.length && ds.head? == some '0') || 255 < value then none
  else some (cs.drop ds.length)

def dottedTail : Nat → List Char → Bool
  | 0, _ => false
  | 1, cs => dottedNumber cs == some []
  | count + 1, cs =>
    match dottedNumber cs with
    | some ('.' :: rest) => dottedTail count rest
    | _ => false

def ipv6Pieces (pieces : Nat) (gap : Option Nat) : List Char → Option (Nat × Option Nat)
  | [] => some (pieces, gap)
  | c :: rest =>
    if pieces == 8 then none
    else if c == ':' then
      if gap.isSome then none else ipv6Pieces (pieces + 1) (some (pieces + 1)) rest
    else
      let ds := ((c :: rest).take 4).takeWhile Char.isHexDigit
      match h : (c :: rest).drop ds.length with
      | [] => some (pieces + 1, gap)
      | '.' :: _ =>
        if ds.isEmpty || 6 < pieces || !dottedTail 4 (c :: rest) then none
        else some (pieces + 2, gap)
      | ':' :: after =>
        if after.isEmpty then none else ipv6Pieces (pieces + 1) gap after
      | _ => none
termination_by cs => cs.length
decreasing_by
  · simp
  · have := length_drop_le ds.length (c :: rest)
    rw [h] at this
    simp only [List.length_cons] at this ⊢
    omega

def validIpv6 (cs : List Char) : Bool :=
  if cs.length < 2 then false
  else
    let start := match cs with
      | ':' :: ':' :: rest => some (1, some 1, rest)
      | ':' :: _ => none
      | _ => some (0, none, cs)
    match start with
    | none => false
    | some (pieces, gap, rest) =>
      match ipv6Pieces pieces gap rest with
      | some (n, none) => n == 8
      | some (_, some _) => true
      | none => false

def isDriveLetter (cs : List Char) : Bool :=
  match cs with
  | [a, b] => a.isAlpha && (b == ':' || b == '|')
  | _ => false

def splitHost (cs : List Char) : List Char × List Char :=
  go false [] cs
where
  go (inside : Bool) (acc : List Char) : List Char → List Char × List Char
    | [] => (acc.reverse, [])
    | c :: rest =>
      if c == ':' && !inside then (acc.reverse, c :: rest)
      else go (if c == '[' then true else if c == ']' then false else inside) (c :: acc) rest

def validDomainHost (host : List Char) : Bool :=
  match host with
  | '[' :: rest => rest.getLast? == some ']' && validIpv6 rest.dropLast
  | _ =>
    match processDomain host with
    | some domain => !domain.isEmpty && (!endsInNumber domain || validIpv4 domain)
    | none => false

def validOpaqueHost (host : List Char) : Bool :=
  match host with
  | '[' :: rest => rest.getLast? == some ']' && validIpv6 rest.dropLast
  | _ => !host.any isForbiddenHostChar

def validHostPort (special : Bool) (hostPort : List Char) : Bool :=
  let (host, after) := splitHost hostPort
  let portOk := match after with
    | ':' :: port => validPort port
    | _ => true
  if host.isEmpty then !special && after.isEmpty
  else (if special then validDomainHost host else validOpaqueHost host) && portOk

def specialSchemes : List String := ["http", "https", "ws", "wss", "ftp"]

def validAfterScheme (scheme : String) (rest : List Char) : Bool :=
  let isSlash (c : Char) := c == '/' || c == '\\'
  if specialSchemes.contains scheme then
    let auth := (rest.dropWhile isSlash).takeWhile fun c => !isSlash c && c != '?' && c != '#'
    let hostPort := (auth.reverse.takeWhile (· != '@')).reverse
    validHostPort true hostPort
  else if scheme == "file" then
    match rest with
    | a :: b :: more =>
      if isSlash a && isSlash b then
        let host := more.takeWhile fun c => !isSlash c && c != '?' && c != '#'
        host.isEmpty || isDriveLetter host || validDomainHost host
      else true
    | _ => true
  else
    match rest with
    | '/' :: '/' :: more =>
      let auth := more.takeWhile fun c => c != '/' && c != '?' && c != '#'
      let hostPort := (auth.reverse.takeWhile (· != '@')).reverse
      validHostPort false hostPort
    | _ => true

/-- The lowercase scheme of a URL, or the empty text when it does not parse as an absolute URL. -/
def uriScheme (uri : String) : String :=
  let cs := stripWhite uri.toList
  let cs := stripBy (fun c => c.toNat ≤ 0x20) cs
  let cs := cs.filter fun c => c != '\t' && c != '\n' && c != '\r'
  match splitScheme cs with
  | some (scheme, rest) =>
    let s := String.ofList scheme
    if validAfterScheme s rest then s else ""
  | none => ""

/-- The slug of an anchor: parentheses and spaces become dashes, with no dash doubled or last. -/
def anchorSlug (cs : List Char) : List Char :=
  let slug := cs.foldl (fun acc c =>
    let c := if c == '(' || c == ')' || c == ' ' then '-' else c
    if c == '-' && acc.head? == some '-' then acc else c :: acc) []
  (slug.dropWhile (· == '-')).reverse

/-- A target made safe inside `(…)`: an anchor as a slug, else parentheses and spaces encoded. -/
def encodeUrl (url : String) : String :=
  let cs := stripWhite url.toList
  match cs with
  | '#' :: _ => String.ofList (anchorSlug cs)
  | _ => String.join (cs.map fun c =>
      match c with
      | '(' => "%28"
      | ')' => "%29"
      | ' ' => "%20"
      | c => c.toString)

end HtmlMarkdown
