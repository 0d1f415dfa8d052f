import HtmlMarkdown.Text.Shortcode

namespace HtmlMarkdown

/-- The state of greedy filling: finished lines, the current line and its width. -/
structure Filling where
  done : List String
  current : String
  width : Nat

/-- Places one chunk, starting a new line when it does not fit after the current one. -/
def Filling.place (room : Nat) (st : Filling) (c : Chunk) : Filling :=
  let st := if 0 < st.width && room < st.width + 1 + c.width then
      ⟨st.done ++ [st.current], "", 0⟩
    else st
  if 0 < st.width then ⟨st.done, st.current ++ " " ++ c.text, st.width + 1 + c.width⟩
  else ⟨st.done, st.current ++ c.text, st.width + c.width⟩

/-- The lines of first-fit filling; an empty input gives one empty line. -/
def fillLines (room : Nat) (chunks : List Chunk) : List String :=
  let st := chunks.foldl (Filling.place room) ⟨[], "", 0⟩
  if st.current != "" || st.done.isEmpty then st.done ++ [st.current] else st.done

/-- Wraps one line to `width` code points. Fails on a line feed. -/
def wrapLine (mode : ShortcodeMode) (width : Nat) (line : String) : Except TextError String :=
  let cs := line.toList
  if cs.contains '\n' then .error (.lineFeed .wrapping)
  else if cs.length ≤ width then .ok line
  else
    let indent := cs.takeWhile (· == ' ')
    let body := cs.dropWhile (· == ' ')
    let content := dropEndBy (· == ' ') body
    let trailing := body.drop content.length
    let room := max 1 (width - indent.length)
    match chunkLine mode (String.ofList content) with
    | .error e => .error e
    | .ok chunks =>
      let lines := (fillLines room chunks).map (String.ofList indent ++ ·)
      .ok ("\n".intercalate lines ++ String.ofList trailing)

def dropCarriageReturn (s : String) : String :=
  if s.toList.getLast? = some '\r' then String.ofList s.toList.dropLast else s

def wrapText (mode : ShortcodeMode) (width : Nat) (text : String) : Except TextError String :=
  if text.isEmpty then .ok ""
  else do
    let lines ← (text.toList.splitOn '\n').mapM fun l =>
      wrapLine mode width (dropCarriageReturn (String.ofList l))
    pure ("\n".intercalate lines)

end HtmlMarkdown
