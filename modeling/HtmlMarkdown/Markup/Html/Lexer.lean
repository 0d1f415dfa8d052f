import HtmlMarkdown.Markup.Html.Token
import HtmlMarkdown.Markup.Html.Reference

namespace HtmlMarkdown.Html

/-- What the tokenizer knows of the tree: how to read text, the last start tag, and whether the
adjusted current node is foreign. -/
structure LexContext where
  kind : TextKind := .data
  lastStartTag : String := ""
  foreign : Bool := false

structure TagDraft where
  name : String
  attrs : Array (String × String) := #[]
  attrName : String := ""
  attrValue : String := ""
  selfClosing : Bool := false

namespace TagDraft

def commit (d : TagDraft) : TagDraft :=
  let attrs :=
    if d.attrName.isEmpty || d.attrs.any (·.1 == d.attrName) then d.attrs
    else d.attrs.push (d.attrName, d.attrValue)
  { d with attrs, attrName := "", attrValue := "" }

def startAttr (d : TagDraft) (c : Char) : TagDraft := { d.commit with attrName := String.singleton c }

def addValue (d : TagDraft) (s : String) : TagDraft := { d with attrValue := d.attrValue ++ s }

end TagDraft

def nameChar (c : Char) : Char := if c == '\x00' then '�' else lowerAscii c

def textChar (c : Char) : Char := if c == '\x00' then '�' else c

inductive TagState where
  | name
  | beforeAttrName
  | attrName
  | afterAttrName
  | beforeAttrValue
  | doubleQuoted
  | singleQuoted
  | unquoted
  | afterValue
  | selfClosing

/-- Reads the rest of a tag: the tag and the input after `>`, or nothing when the input ends first.
-/
def readTag (st : TagState) (d : TagDraft) (cs : List Char) : Option TagDraft × List Char :=
  match cs with
  | [] => (none, [])
  | c :: rest =>
    match st with
    | .name =>
      if isSpace c then readTag .beforeAttrName d rest
      else if c == '/' then readTag .selfClosing d rest
      else if c == '>' then (some d, rest)
      else readTag .name { d with name := d.name.push (nameChar c) } rest
    | .beforeAttrName =>
      if isSpace c then readTag .beforeAttrName d rest
      else if c == '/' then readTag .selfClosing d rest
      else if c == '>' then (some d.commit, rest)
      else readTag .attrName (d.startAttr (nameChar c)) rest
    | .attrName =>
      if isSpace c then readTag .afterAttrName d rest
      else if c == '/' then readTag .selfClosing d rest
      else if c == '>' then (some d.commit, rest)
      else if c == '=' then readTag .beforeAttrValue d rest
      else readTag .attrName { d with attrName := d.attrName.push (nameChar c) } rest
    | .afterAttrName =>
      if isSpace c then readTag .afterAttrName d rest
      else if c == '/' then readTag .selfClosing d rest
      else if c == '=' then readTag .beforeAttrValue d rest
      else if c == '>' then (some d.commit, rest)
      else readTag .attrName (d.startAttr (nameChar c)) rest
    | .beforeAttrValue =>
      if isSpace c then readTag .beforeAttrValue d rest
      else if c == '"' then readTag .doubleQuoted d rest
      else if c == '\'' then readTag .singleQuoted d rest
      else if c == '>' then (some d.commit, rest)
      else if c == '&' then
        match readReference true rest with
        | (s, ⟨r, _⟩) => readTag .unquoted (d.addValue s) r
      else readTag .unquoted (d.addValue (String.singleton (textChar c))) rest
    | .doubleQuoted =>
      if c == '"' then readTag .afterValue d rest
      else if c == '&' then
        match readReference true rest with
        | (s, ⟨r, _⟩) => readTag .doubleQuoted (d.addValue s) r
      else readTag .doubleQuoted (d.addValue (String.singleton (textChar c))) rest
    | .singleQuoted =>
      if c == '\'' then readTag .afterValue d rest
      else if c == '&' then
        match readReference true rest with
        | (s, ⟨r, _⟩) => readTag .singleQuoted (d.addValue s) r
      else readTag .singleQuoted (d.addValue (String.singleton (textChar c))) rest
    | .unquoted =>
      if isSpace c then readTag .beforeAttrName d rest
      else if c == '&' then
        match readReference true rest with
        | (s, ⟨r, _⟩) => readTag .unquoted (d.addValue s) r
      else if c == '>' then (some d.commit, rest)
      else readTag .unquoted (d.addValue (String.singleton (textChar c))) rest
    | .afterValue =>
      if isSpace c then readTag .beforeAttrName d rest
      else if c == '/' then readTag .selfClosing d rest
      else if c == '>' then (some d.commit, rest)
      else readTag .attrName (d.startAttr (nameChar c)) rest
    | .selfClosing =>
      if c == '>' then (some { d.commit with selfClosing := true }, rest)
      else if isSpace c then readTag .beforeAttrName d rest
      else if c == '/' then readTag .selfClosing d rest
      else readTag .attrName (d.startAttr (nameChar c)) rest
termination_by cs.length
decreasing_by all_goals simp_wf <;> omega

inductive CommentState where
  | start
  | startDash
  | body
  | endDash
  | finish
  | bang

def readComment (st : CommentState) (data : String) : List Char → String × List Char
  | [] => (data, [])
  | c :: rest =>
    let body (d : String) : String × List Char :=
      if c == '-' then readComment .endDash d rest else readComment .body (d.push (textChar c)) rest
    match st with
    | .start =>
      if c == '-' then readComment .startDash data rest
      else if c == '>' then (data, rest)
      else body data
    | .startDash =>
      if c == '-' then readComment .finish data rest
      else if c == '>' then (data, rest)
      else body (data.push '-')
    | .body => body data
    | .endDash => if c == '-' then readComment .finish data rest else body (data.push '-')
    | .finish =>
      if c == '>' then (data, rest)
      else if c == '!' then readComment .bang data rest
      else if c == '-' then readComment .finish (data.push '-') rest
      else body (data ++ "--")
    | .bang =>
      if c == '-' then readComment .endDash (data ++ "--!") rest
      else if c == '>' then (data, rest)
      else body (data ++ "--!")

def readBogus (data : String) : List Char → String × List Char
  | [] => (data, [])
  | c :: rest => if c == '>' then (data, rest) else readBogus (data.push (textChar c)) rest

def readCdata (acc : String) : List Char → String × List Char
  | [] => (acc, [])
  | ']' :: ']' :: '>' :: rest => (acc, rest)
  | c :: rest => readCdata (acc.push c) rest

inductive DoctypeState where
  | start
  | beforeName
  | name
  | afterName
  | afterPublicKeyword
  | beforePublicId
  | publicId (quote : Char)
  | afterPublicId
  | betweenIds
  | afterSystemKeyword
  | beforeSystemId
  | systemId (quote : Char)
  | afterSystemId
  | bogus

def startsWithWord (word : String) (cs : List Char) : Bool :=
  word.length ≤ cs.length && (cs.take word.length).map lowerAscii == word.toList

def pushId (id : Option String) (c : Char) : Option String := some ((id.getD "").push (textChar c))

/-- Reads a doctype after `<!DOCTYPE`: the doctype and the input after its end. -/
def readDoctype (st : DoctypeState) (d : Doctype) (cs : List Char) : Doctype × List Char :=
  match cs with
  | [] =>
    match st with
    | .bogus | .afterSystemId => (if st matches .bogus then d else { d with forceQuirks := true }, [])
    | _ => ({ d with forceQuirks := true }, [])
  | c :: rest =>
    let quirky : Doctype := { d with forceQuirks := true }
    match st with
    | .start =>
      if isSpace c then readDoctype .beforeName d rest
      else if c == '>' then (quirky, rest)
      else readDoctype .name { d with name := some (String.singleton (nameChar c)) } rest
    | .beforeName =>
      if isSpace c then readDoctype .beforeName d rest
      else if c == '>' then (quirky, rest)
      else readDoctype .name { d with name := some (String.singleton (nameChar c)) } rest
    | .name =>
      if isSpace c then readDoctype .afterName d rest
      else if c == '>' then (d, rest)
      else readDoctype .name { d with name := some ((d.name.getD "").push (nameChar c)) } rest
    | .afterName =>
      if isSpace c then readDoctype .afterName d rest
      else if c == '>' then (d, rest)
      else if startsWithWord "public" (c :: rest) then readDoctype .afterPublicKeyword d (rest.drop 5)
      else if startsWithWord "system" (c :: rest) then readDoctype .afterSystemKeyword d (rest.drop 5)
      else readDoctype .bogus quirky rest
    | .afterPublicKeyword =>
      if isSpace c then readDoctype .beforePublicId d rest
      else if c == '"' || c == '\'' then readDoctype (.publicId c) { d with publicId := some "" } rest
      else if c == '>' then (quirky, rest)
      else readDoctype .bogus quirky rest
    | .beforePublicId =>
      if isSpace c then readDoctype .beforePublicId d rest
      else if c == '"' || c == '\'' then readDoctype (.publicId c) { d with publicId := some "" } rest
      else if c == '>' then (quirky, rest)
      else readDoctype .bogus quirky rest
    | .publicId q =>
      if c == q then readDoctype .afterPublicId d rest
      else if c == '>' then (quirky, rest)
      else readDoctype (.publicId q) { d with publicId := pushId d.publicId c } rest
    | .afterPublicId =>
      if isSpace c then readDoctype .betweenIds d rest
      else if c == '>' then (d, rest)
      else if c == '"' || c == '\'' then readDoctype (.systemId c) { d with systemId := some "" } rest
      else readDoctype .bogus quirky rest
    | .betweenIds =>
      if isSpace c then readDoctype .betweenIds d rest
      else if c == '>' then (d, rest)
      else if c == '"' || c == '\'' then readDoctype (.systemId c) { d with systemId := some "" } rest
      else readDoctype .bogus quirky rest
    | .afterSystemKeyword =>
      if isSpace c then readDoctype .beforeSystemId d rest
      else if c == '"' || c == '\'' then readDoctype (.systemId c) { d with systemId := some "" } rest
      else if c == '>' then (quirky, rest)
      else readDoctype .bogus quirky rest
    | .beforeSystemId =>
      if isSpace c then readDoctype .beforeSystemId d rest
      else if c == '"' || c == '\'' then readDoctype (.systemId c) { d with systemId := some "" } rest
      else if c == '>' then (quirky, rest)
      else readDoctype .bogus quirky rest
    | .systemId q =>
      if c == q then readDoctype .afterSystemId d rest
      else if c == '>' then (quirky, rest)
      else readDoctype (.systemId q) { d with systemId := pushId d.systemId c } rest
    | .afterSystemId =>
      if isSpace c then readDoctype .afterSystemId d rest
      else if c == '>' then (d, rest)
      else readDoctype .bogus d rest
    | .bogus => if c == '>' then (d, rest) else readDoctype .bogus d rest
termination_by cs.length
decreasing_by all_goals (simp only [List.length_cons, List.length_drop]; omega)

/-- Reads what follows `<!`: a comment, a doctype, a CDATA section in foreign content, or a bogus
comment. -/
def readDeclaration (foreign : Bool) (cs : List Char) : Option Token × List Char :=
  match cs with
  | '-' :: '-' :: rest =>
    let (data, r) := readComment .start "" rest
    (some (.comment data), r)
  | _ =>
    if startsWithWord "doctype" cs then
      let (d, r) := readDoctype .start {} (cs.drop 7)
      (some (.doctype d), r)
    else if cs.take 7 == "[CDATA[".toList then
      if foreign then
        let (text, r) := readCdata "" (cs.drop 7)
        (if text.isEmpty then none else some (.text text), r)
      else
        let (data, r) := readBogus "[CDATA[" (cs.drop 7)
        (some (.comment data), r)
    else
      let (data, r) := readBogus "" cs
      (some (.comment data), r)

def TagDraft.startToken (d : TagDraft) : Token := .startTag d.name d.attrs.toList d.selfClosing

def readTagOpen (foreign : Bool) (cs : List Char) : Option Token × List Char :=
  match cs with
  | [] => (some (.text "<"), [])
  | '!' :: rest => readDeclaration foreign rest
  | '/' :: rest =>
    match rest with
    | [] => (some (.text "</"), [])
    | c :: more =>
      if c.isAlpha then
        let (d, r) := readTag .name { name := String.singleton (lowerAscii c) } more
        (d.map fun d => .endTag d.name, r)
      else if c == '>' then (none, more)
      else
        let (data, r) := readBogus "" (c :: more)
        (some (.comment data), r)
  | '?' :: rest =>
    let (data, r) := readBogus "?" rest
    (some (.comment data), r)
  | c :: rest =>
    if c.isAlpha then
      let (d, r) := readTag .name { name := String.singleton (lowerAscii c) } rest
      (d.map TagDraft.startToken, r)
    else (some (.text "<"), c :: rest)

def endsRun (c : Char) : Bool := c == '<' || c == '&' || c == '\n' || c == '\x00'

def readRun (acc : String) : List Char → String × List Char
  | [] => (acc, [])
  | c :: rest => if endsRun c then (acc, c :: rest) else readRun (acc.push c) rest

def readData (foreign : Bool) : List Char → Option Token × List Char
  | [] => (some .eof, [])
  | '<' :: rest => readTagOpen foreign rest
  | '&' :: rest =>
    let (s, r) := readReference false rest
    (some (.text s), r.1)
  | '\n' :: rest => (some (.text "\n"), rest)
  | '\x00' :: rest => (some (.text "\x00"), rest)
  | c :: rest =>
    let (run, r) := readRun (String.singleton c) rest
    (some (.text run), r)

/-- Whether the input starts the end tag of `name`, in any case, before white space, `/` or `>`. -/
def startsEndTag (name : String) (cs : List Char) : Bool :=
  match cs with
  | '<' :: '/' :: rest =>
    !name.isEmpty && startsWithWord name rest &&
      match rest.drop name.length with
      | c :: _ => isSpace c || c == '/' || c == '>'
      | [] => false
  | _ => false

/-- Reads raw text up to the end tag of `name`, decoding references when `references` holds. -/
def readRawText (references : Bool) (name : String) (acc : String) (cs : List Char) :
    String × List Char :=
  match cs with
  | [] => (acc, [])
  | c :: rest =>
    if c == '<' && startsEndTag name (c :: rest) then (acc, c :: rest)
    else if references && c == '&' then
      match readReference false rest with
      | (s, ⟨r, _⟩) => readRawText references name (acc ++ s) r
    else readRawText references name (acc.push (textChar c)) rest
termination_by cs.length
decreasing_by all_goals simp_wf <;> omega

/-- Where the reader of script text stands; inside `<!--` a nested `<script` hides its end tag. -/
inductive ScriptState where
  | normal
  | normalLess
  | escapeStart
  | escapeStartDash
  | escaped
  | escapedDash
  | escapedDashDash
  | doubleEscapeStart (word : String)
  | doubleEscaped
  | doubleEscapedDash
  | doubleEscapedDashDash
  | doubleEscapedLess
  | doubleEscapeEnd (word : String)

/-- What script text does with one character: stop before it, or take some text and go on. -/
inductive ScriptStep where
  | stop
  | take (s : String) (st : ScriptState)

def escapedLess (c : Char) (rest : List Char) : ScriptStep :=
  if startsEndTag "script" (c :: rest) then .stop
  else match rest with
    | d :: _ => if d.isAlpha then .take "<" (.doubleEscapeStart "") else .take "<" .escaped
    | [] => .take "<" .escaped

def escapedStep (c : Char) (rest : List Char) : ScriptStep :=
  if c == '-' then .take "-" .escapedDash
  else if c == '<' then escapedLess c rest
  else .take (String.singleton (textChar c)) .escaped

def doubleEscapedStep (c : Char) : ScriptStep :=
  if c == '-' then .take "-" .doubleEscapedDash
  else if c == '<' then .take "<" .doubleEscapedLess
  else .take (String.singleton (textChar c)) .doubleEscaped

def normalStep (c : Char) (rest : List Char) : ScriptStep :=
  if c == '<' then
    if startsEndTag "script" (c :: rest) then .stop else .take "<" .normalLess
  else .take (String.singleton (textChar c)) .normal

def scriptStep (st : ScriptState) (c : Char) (rest : List Char) : ScriptStep :=
  match st with
  | .normal => normalStep c rest
  | .normalLess => if c == '!' then .take "!" .escapeStart else normalStep c rest
  | .escapeStart => if c == '-' then .take "-" .escapeStartDash else normalStep c rest
  | .escapeStartDash => if c == '-' then .take "-" .escapedDashDash else normalStep c rest
  | .escaped => escapedStep c rest
  | .escapedDash =>
    if c == '-' then .take "-" .escapedDashDash else escapedStep c rest
  | .escapedDashDash =>
    if c == '-' then .take "-" .escapedDashDash
    else if c == '>' then .take ">" .normal
    else escapedStep c rest
  | .doubleEscapeStart word =>
    if isSpace c || c == '/' || c == '>' then
      .take (String.singleton c) (if word == "script" then .doubleEscaped else .escaped)
    else if c.isAlpha then .take (String.singleton c) (.doubleEscapeStart (word.push (lowerAscii c)))
    else escapedStep c rest
  | .doubleEscaped => doubleEscapedStep c
  | .doubleEscapedDash =>
    if c == '-' then .take "-" .doubleEscapedDashDash else doubleEscapedStep c
  | .doubleEscapedDashDash =>
    if c == '-' then .take "-" .doubleEscapedDashDash
    else if c == '>' then .take ">" .normal
    else doubleEscapedStep c
  | .doubleEscapedLess =>
    if c == '/' then .take "/" (.doubleEscapeEnd "") else doubleEscapedStep c
  | .doubleEscapeEnd word =>
    if isSpace c || c == '/' || c == '>' then
      .take (String.singleton c) (if word == "script" then .escaped else .doubleEscaped)
    else if c.isAlpha then .take (String.singleton c) (.doubleEscapeEnd (word.push (lowerAscii c)))
    else doubleEscapedStep c

def readScript (st : ScriptState) (acc : String) : List Char → String × List Char
  | [] => (acc, [])
  | c :: rest =>
    match scriptStep st c rest with
    | .stop => (acc, c :: rest)
    | .take s st' => readScript st' (acc ++ s) rest

def readRawEnd (name : String) (cs : List Char) : Option Token × List Char :=
  let (d, r) := readTag .name { name } (cs.drop (2 + name.length))
  (d.map fun d => .endTag d.name, r)

/-- Reads the next token in a context. -/
def nextToken (ctx : LexContext) (cs : List Char) : Option Token × List Char :=
  let text (r : String × List Char) : Option Token × List Char :=
    (if r.1.isEmpty then none else some (.text r.1), r.2)
  match ctx.kind with
  | .data => readData ctx.foreign cs
  | .plaintext => text (String.ofList (cs.map textChar), [])
  | .rcdata =>
    if startsEndTag ctx.lastStartTag cs then readRawEnd ctx.lastStartTag cs
    else text (readRawText true ctx.lastStartTag "" cs)
  | .rawtext =>
    if startsEndTag ctx.lastStartTag cs then readRawEnd ctx.lastStartTag cs
    else text (readRawText false ctx.lastStartTag "" cs)
  | .script =>
    if startsEndTag ctx.lastStartTag cs then readRawEnd ctx.lastStartTag cs
    else text (readScript .normal "" cs)

end HtmlMarkdown.Html
