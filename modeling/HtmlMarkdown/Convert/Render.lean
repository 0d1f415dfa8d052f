import HtmlMarkdown.Convert.Table
import HtmlMarkdown.Convert.Rule
import HtmlMarkdown.Convert.Error

namespace HtmlMarkdown

/-- What a conversion reads: the settings and the registry. -/
structure Setting where
  options : Options
  registry : Registry

/-- The rule for a node: pass-through tags first, then the registry, then the unknown-tag policy. -/
def Setting.ruleFor (s : Setting) (c : Cursor) : Except ConvertError Rule :=
  if c.node.isElement && s.options.isPassThrough c.tag then .ok .passThrough
  else
    match s.registry.get? c.tag with
    | some r => .ok r
    | none =>
      match s.options.unknownTags with
      | .passThrough => .ok .passThrough
      | .drop => .ok .drop
      | .bypass => .ok .bypass
      | .raise => .error (.unknownTag c.tag)

/-- Wraps a pending run of inline output onto the content, trimming its start where allowed. -/
def flushRun (layout : Layout) (mode : ShortcodeMode) (content run : String) :
    Except ConvertError String :=
  if run.isEmpty then .ok content
  else
    let text := if layout.canTrim && isWhiteText content then trimWhiteStart run else run
    match layout.wrap mode text with
    | .ok w => .ok (content ++ w)
    | .error e => .error (.text e)

theorem Cursor.sizeOf_lt_of_mem_children {c d : Cursor} (h : d ∈ c.children) :
    sizeOf d.node < sizeOf c.node := by
  unfold Cursor.children at h
  obtain ⟨⟨ch, i⟩, hm, rfl⟩ := List.mem_map.1 h
  exact Node.sizeOf_lt_of_mem_children (List.fst_mem_of_mem_zipIdx hm)

mutual
def Setting.convert (s : Setting) (c : Cursor) : Except ConvertError String := do
  let rule ← s.ruleFor c
  let f ← s.convertWith rule c
  pure f.render
termination_by (sizeOf c.node, 4)

def Setting.convertWith (s : Setting) (rule : Rule) (c : Cursor) :
    Except ConvertError Fragment := do
  let o := s.options
  match rule with
  | .text => pure (.ofContent (textMarkdown o c))
  | .comment => pure (if o.removeComments then {} else .ofContent c.node.outerHtml)
  | .paragraph =>
    match c.parentTag? with
    | some "ol" => .error (.malformedList "ol")
    | some "ul" => .error (.malformedList "ul")
    | _ =>
      let content ← s.formatChildren c (resolveLayout o c) (chunkerFor o c)
      pure ⟨cellPrefix c, content, cellSuffix c⟩
  | .div =>
    let content ← s.divContent c (resolveLayout o c) (chunkerFor o c)
    match c.node.contentChildren with
    | [only] =>
      if ["p", "pre", "ol", "table"].any only.isTag then pure (.ofContent content)
      else pure ⟨cellPrefix c, content, cellSuffix c⟩
    | _ => pure ⟨cellPrefix c, content, cellSuffix c⟩
  | .aside => pure ⟨"\n", trimWhite (← s.convertChildren c), "\n"⟩
  | .blockquote =>
    let content ← s.formatChildren c (resolveLayout o c) (chunkerFor o c)
    pure ⟨"\n\n", quoteLines (trimBlock o c content), "\n\n"⟩
  | .list =>
    if c.hasAncestor "table" then pure (.ofContent c.node.outerHtml)
    else
      let edge := if c.parentTag? == some "ol" || c.parentTag? == some "ul" then "" else "\n"
      pure ⟨edge, ← s.convertChildren c, edge⟩
  | .listItem =>
    let marker := listItemMarker o c
    let content ← s.formatChildren c (resolveLayout o c) (chunkerFor o c)
    pure ⟨marker, hangingIndent marker.length (trimBlock o c content), "\n"⟩
  | .table =>
    if hasSpans c.node then pure (.ofContent c.node.outerHtml)
    else pure ⟨tablePrefix o c, ← s.convertChildren c, "\n"⟩
  | .row => pure (rowFragment o c (← s.convertChildren c))
  | .cell => pure (cellFragment (← s.convertChildren c))
  | .codeBlock => pure (codeBlockFragment o c)
  | .code => pure (codeSpan c.innerText)
  | .emphasis =>
    pure (delimitedFragment ["em", "i"] o.emDelimiter.toString c (← s.convertChildren c))
  | .strong =>
    let d := o.emDelimiter.toString
    pure (delimitedFragment ["strong", "b"] (d ++ d) c (← s.convertChildren c))
  | .strikethrough =>
    let content ← s.convertChildren c
    pure (if !o.githubFlavored || isWhiteText content then .ofContent content
      else ⟨"~~", content, "~~"⟩)
  | .link => pure (linkFragment o c (← s.convertChildren c))
  | .image => pure (imageFragment o c)
  | .lineBreak => pure (lineBreakFragment o c)
  | .horizontalRule => pure ⟨"\n", o.hr, "\n"⟩
  | .heading => pure (headingFragment c (← s.convertChildren c))
  | .passThrough => pure (.ofContent c.node.outerHtml)
  | .drop => pure {}
  | .bypass => pure (.ofContent (← s.convertChildren c))
termination_by (sizeOf c.node, 3)

/-- The content of a div: the children of the innermost div of its chain of lone divs. -/
def Setting.divContent (s : Setting) (c : Cursor) (layout : Layout) (mode : ShortcodeMode) :
    Except ConvertError String :=
  match h : c.children.filter (fun d => !d.node.isBlankText) with
  | [d] =>
    have : d ∈ c.children := by
      have : d ∈ c.children.filter (fun d => !d.node.isBlankText) := by simp [h]
      exact (List.mem_filter.1 this).1
    if d.isTag "div" then s.divContent d layout mode else s.formatChildren c layout mode
  | _ => s.formatChildren c layout mode
termination_by (sizeOf c.node, 2)
decreasing_by
  · exact Prod.Lex.left _ _ (Cursor.sizeOf_lt_of_mem_children this)
  · exact Prod.Lex.right _ (by omega)
  · exact Prod.Lex.right _ (by omega)

def Setting.convertChildren (s : Setting) (c : Cursor) : Except ConvertError String :=
  c.children.attach.foldlM (fun acc ⟨d, _⟩ => do pure (acc ++ (← s.convert d))) ""
termination_by (sizeOf c.node, 1)
decreasing_by exact Prod.Lex.left _ _ (Cursor.sizeOf_lt_of_mem_children ‹_›)

/-- The children laid out: inline runs wrapped as the layout allows, blocks taken as they are. -/
def Setting.formatChildren (s : Setting) (c : Cursor) (layout : Layout) (mode : ShortcodeMode) :
    Except ConvertError String := do
  let (content, run) ← c.children.attach.foldlM (fun (content, run) ⟨d, _⟩ => do
      let rule ← s.ruleFor d
      let converted := (← s.convertWith rule d).render
      if rule.isBlock && !defersToContainer d then
        pure ((← flushRun layout mode content run) ++ converted, "")
      else pure (content, run ++ converted)) ("", "")
  let content ← flushRun layout mode content run
  pure (if layout.canTrim then trimWhite content else content)
termination_by (sizeOf c.node, 1)
decreasing_by exact Prod.Lex.left _ _ (Cursor.sizeOf_lt_of_mem_children ‹_›)
end

end HtmlMarkdown
