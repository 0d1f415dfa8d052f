namespace HtmlMarkdown

/-- Replaces every occurrence of `p :: ps`, left to right and without overlap, by `rep`. -/
def replaceSeq (p : Char) (ps rep : List Char) : List Char → List Char
  | [] => []
  | c :: rest =>
    if c = p && ps.isPrefixOf rest then rep ++ replaceSeq p ps rep (rest.drop ps.length)
    else c :: replaceSeq p ps rep rest
termination_by cs => cs.length
decreasing_by all_goals (simp only [List.length_cons, List.length_drop]; omega)

def replaceText (pat rep : String) (s : String) : String :=
  match pat.toList with
  | [] => s
  | p :: ps => String.ofList (replaceSeq p ps rep.toList s.toList)

end HtmlMarkdown
