import HtmlMarkdown.Proofs.Padding
import HtmlMarkdown.Proofs.FirstFailure
import HtmlMarkdown.Proofs.LineLength

namespace HtmlMarkdown

theorem Setting.convert_of_ruleFor {s : Setting} {c : Cursor} {r : Rule} (h : s.ruleFor c = .ok r) :
    s.convert c = (s.convertWith r c).map Fragment.render := by
  rw [Setting.convert, h]
  rfl

theorem foldlM_padded {β : Type} {f : β → Cursor → Except ConvertError β} {ds ds' : List Cursor}
    (h : Cursor.PaddedList ds ds') (hblank : ∀ acc d', d'.node = .text "" → f acc d' = pure acc)
    (hrel : ∀ d ∈ ds, ∀ d', d.Padded d' → ∀ acc, f acc d' = f acc d) (acc : β) :
    ds'.foldlM f acc = ds.foldlM f acc := by
  induction h generalizing acc with
  | nil => rfl
  | @cons d d' _ _ hd _ ih =>
    rw [List.foldlM_cons, List.foldlM_cons, hrel d List.mem_cons_self d' hd acc]
    congr 1
    funext acc'
    exact ih (fun e he => hrel e (List.mem_cons_of_mem d he)) acc'
  | blank hd _ ih =>
    rw [List.foldlM_cons, hblank acc _ hd, pure_bind]
    exact ih hrel acc

theorem Cursor.PaddedList.filter_content {ds ds' : List Cursor} (h : Cursor.PaddedList ds ds') :
    List.Forall₂ Cursor.Padded (ds.filter fun d => !d.node.isBlankText)
      (ds'.filter fun d => !d.node.isBlankText) := by
  induction h with
  | nil => exact .nil
  | @cons d _ _ _ hd _ ih =>
    rw [List.filter_cons, List.filter_cons, hd.node.isBlankText_eq]
    cases d.node.isBlankText with
    | false => exact .cons hd ih
    | true => exact ih
  | blank hd _ ih =>
    rw [List.filter_cons, hd]
    exact ih

section Conversion

variable {s : Setting}

theorem Cursor.Padded.ruleFor_eq {c c' : Cursor} (h : c.Padded c') :
    s.ruleFor c' = s.ruleFor c := by
  rw [Setting.ruleFor, Setting.ruleFor, h.node.isElement_eq, h.tag_eq]

theorem Setting.convert_eq_of_convertWith {c c' : Cursor} (hrule : s.ruleFor c' = s.ruleFor c)
    (hwith : ∀ r, s.convertWith r c' = s.convertWith r c) : s.convert c' = s.convert c := by
  rw [Setting.convert, Setting.convert, hrule]
  congr 1
  funext r
  rw [hwith r]

theorem isBlockTag_emphasis : ∀ t ∈ ["em", "i"], isBlockTag t = false := by
  simp only [List.mem_cons, List.not_mem_nil, or_false]
  rintro t (rfl | rfl) <;> rw [isBlockTag_ascii (by simp)] <;> decide

theorem isBlockTag_strong : ∀ t ∈ ["strong", "b"], isBlockTag t = false := by
  simp only [List.mem_cons, List.not_mem_nil, or_false]
  rintro t (rfl | rfl) <;> rw [isBlockTag_ascii (by simp)] <;> decide

theorem textMarkdown_empty (o : Options) {d : Cursor} (hd : d.node = .text "") :
    textMarkdown o d = "" := by
  have hblank : (Node.text "").isBlankText = true := rfl
  have hspace : ((Node.text "").value == " ") = false := by decide
  rw [textMarkdown, hd, if_pos hblank, hspace]
  split <;> simp

theorem Setting.convertWith_empty {d : Cursor} (hd : d.node = .text "") :
    s.convertWith .text d = .ok {} := by
  rw [Setting.convertWith, textMarkdown_empty _ hd]
  rfl

variable (htext : s.registry.get? "#text" = some .text)

include htext in
theorem Setting.ruleFor_empty {d : Cursor} (hd : d.node = .text "") : s.ruleFor d = .ok .text := by
  have helem : d.node.isElement = false := by rw [hd]; rfl
  have htag : d.tag = "#text" := by rw [Cursor.tag, hd]; rfl
  rw [Setting.ruleFor, helem, Bool.false_and, if_neg Bool.false_ne_true, htag, htext]

include htext in
theorem Setting.convert_empty {d : Cursor} (hd : d.node = .text "") : s.convert d = .ok "" := by
  rw [Setting.convert_of_ruleFor (s.ruleFor_empty htext hd), s.convertWith_empty hd]
  rfl

include htext in
theorem Setting.layoutStep_empty (layout : Layout) (mode : ShortcodeMode) (acc : String × String)
    {d : Cursor} (hd : d.node = .text "") : s.layoutStep layout mode acc d = pure acc := by
  rw [Setting.layoutStep, s.ruleFor_empty htext hd]
  show (do
    let converted := (← s.convertWith .text d).render
    if Rule.text.isBlock && !defersToContainer d then
      pure ((← flushRun layout mode acc.1 acc.2) ++ converted, "")
    else pure (acc.1, acc.2 ++ converted)) = _
  rw [s.convertWith_empty hd]
  show (Except.ok (acc.1, acc.2 ++ "") : Except ConvertError (String × String)) = _
  rw [String.append_empty]
  rfl

section Step

variable {c c' : Cursor}
  (ih : ∀ {d d' : Cursor}, sizeOf d.node < sizeOf c.node → d.Padded d' →
    ∀ r, s.convertWith r d' = s.convertWith r d)
include ih

theorem Cursor.Padded.convert_eq_of_lt {d d' : Cursor} (hlt : sizeOf d.node < sizeOf c.node)
    (hd : d.Padded d') : s.convert d' = s.convert d :=
  s.convert_eq_of_convertWith hd.ruleFor_eq (ih hlt hd)

include htext in
theorem Cursor.Padded.convertChildren_eq (h : c.Padded c') :
    s.convertChildren c' = s.convertChildren c := by
  rw [Setting.convertChildren_eq, Setting.convertChildren_eq]
  refine foldlM_padded h.children (fun acc d' hd' => ?_) (fun d hd d' hdd acc => ?_) ""
  · rw [s.convert_empty htext hd']
    show (Except.ok (acc ++ "") : Except ConvertError String) = _
    rw [String.append_empty]
    rfl
  · rw [Cursor.Padded.convert_eq_of_lt ih (Cursor.sizeOf_lt_of_mem_children hd) hdd]

include htext in
theorem Cursor.Padded.formatChildren_eq (h : c.Padded c') (layout : Layout)
    (mode : ShortcodeMode) :
    s.formatChildren c' layout mode = s.formatChildren c layout mode := by
  rw [Setting.formatChildren_eq, Setting.formatChildren_eq,
    foldlM_padded h.children (fun acc d' hd' => s.layoutStep_empty htext layout mode acc hd')]
  intro d hd d' hdd acc
  rw [Setting.layoutStep, Setting.layoutStep, hdd.ruleFor_eq, hdd.defersToContainer_eq]
  congr 1
  funext r
  rw [ih (Cursor.sizeOf_lt_of_mem_children hd) hdd r]

end Step

include htext in
theorem Cursor.Padded.divContent_eq {c c' : Cursor} (h : c.Padded c')
    (ih : ∀ {d d' : Cursor}, sizeOf d.node < sizeOf c.node → d.Padded d' →
      ∀ r, s.convertWith r d' = s.convertWith r d)
    (layout : Layout) (mode : ShortcodeMode) :
    s.divContent c' layout mode = s.divContent c layout mode := by
  have hf := h.children.filter_content
  by_cases hone : ∃ d, c.children.filter (fun d => !d.node.isBlankText) = [d]
  · -- one child renders: the chain goes on below it when it is a div
    obtain ⟨d, hd⟩ := hone
    have hmem : d ∈ c.children :=
      (List.mem_filter.1 (hd ▸ List.mem_singleton_self d : d ∈ c.children.filter _)).1
    rw [hd] at hf
    obtain ⟨d', rest', hdd, hrest, hc'⟩ := List.forall₂_cons_left_iff.1 hf
    rw [List.forall₂_nil_left_iff.1 hrest] at hc'
    rw [Setting.divContent_of_eq layout hd, Setting.divContent_of_eq layout hc', hdd.isTag_eq]
    split
    · exact hdd.divContent_eq
        (fun hlt hd r => ih (hlt.trans (Cursor.sizeOf_lt_of_mem_children hmem)) hd r) layout mode
    · exact h.formatChildren_eq htext ih layout mode
  · -- otherwise both lay out their own children
    have hne : ∀ d, c.children.filter (fun d => !d.node.isBlankText) ≠ [d] :=
      fun d hd => hone ⟨d, hd⟩
    have hne' : ∀ d', c'.children.filter (fun d => !d.node.isBlankText) ≠ [d'] := by
      intro d' hd'
      rw [hd'] at hf
      obtain ⟨d, rest, -, hrest, hc⟩ := List.forall₂_cons_right_iff.1 hf
      rw [List.forall₂_nil_right_iff.1 hrest] at hc
      exact hne d hc
    rw [Setting.divContent_of_ne layout hne, Setting.divContent_of_ne layout hne']
    exact h.formatChildren_eq htext ih layout mode
termination_by sizeOf c.node
decreasing_by exact Cursor.sizeOf_lt_of_mem_children hmem

include htext in
theorem Cursor.Padded.convertWith_eq_of {c c' : Cursor} (h : c.Padded c')
    (ih : ∀ {d d' : Cursor}, sizeOf d.node < sizeOf c.node → d.Padded d' →
      ∀ r, s.convertWith r d' = s.convertWith r d)
    (r : Rule) : s.convertWith r c' = s.convertWith r c := by
  have hcc := h.convertChildren_eq htext ih
  have hfc := h.formatChildren_eq htext ih
  have hdc := h.divContent_eq htext ih
  cases r with
  | text => simp only [Setting.convertWith, h.textMarkdown_eq]
  | comment => simp only [Setting.convertWith, h.node.outerHtml_eq]
  | paragraph =>
    simp only [Setting.convertWith, h.parentTag?_eq, h.resolveLayout_eq, h.chunkerFor_eq, hfc,
      h.cellPrefix_eq, h.cellSuffix_eq]
  | div =>
    have hcontent : List.Forall₂ Node.Padded c.node.contentChildren c'.node.contentChildren :=
      h.node.children.toPrefix.filter (fun ha => by rw [ha.isBlankText_eq]) rfl
    simp only [Setting.convertWith, h.resolveLayout_eq, h.chunkerFor_eq, hdc, h.cellPrefix_eq,
      h.cellSuffix_eq]
    -- a div with one child that renders reads that child's tag, at the same place
    generalize c'.node.contentChildren = cs' at hcontent ⊢
    generalize c.node.contentChildren = cs at hcontent ⊢
    cases hcontent with
    | nil => rfl
    | cons hr hrest =>
      cases hrest with
      | nil => simp only [funext hr.isTag_eq]
      | cons => rfl
  | aside => simp only [Setting.convertWith, hcc]
  | blockquote =>
    simp only [Setting.convertWith, h.resolveLayout_eq, h.chunkerFor_eq, hfc, h.trimBlock_eq]
  | list =>
    simp only [Setting.convertWith, h.hasAncestor_eq, h.node.outerHtml_eq, h.parentTag?_eq, hcc]
  | listItem =>
    simp only [Setting.convertWith, h.listItemMarker_eq, h.resolveLayout_eq, h.chunkerFor_eq, hfc,
      h.trimBlock_eq]
  | table =>
    simp only [Setting.convertWith, h.node.hasSpans_eq, h.node.outerHtml_eq, h.tablePrefix_eq, hcc]
  | row => simp only [Setting.convertWith, hcc, h.rowFragment_eq]
  | cell => simp only [Setting.convertWith, hcc]
  | codeBlock => simp only [Setting.convertWith, h.codeBlockFragment_eq]
  | code => simp only [Setting.convertWith, h.innerText_eq]
  | emphasis => simp only [Setting.convertWith, hcc, h.delimitedFragment_eq isBlockTag_emphasis]
  | strong => simp only [Setting.convertWith, hcc, h.delimitedFragment_eq isBlockTag_strong]
  | strikethrough => simp only [Setting.convertWith, hcc]
  | link => simp only [Setting.convertWith, hcc, h.linkFragment_eq]
  | image => simp only [Setting.convertWith, h.imageFragment_eq]
  | lineBreak => simp only [Setting.convertWith, h.lineBreakFragment_eq]
  | horizontalRule => rw [Setting.convertWith, Setting.convertWith]
  | heading => simp only [Setting.convertWith, hcc, h.headingFragment_eq]
  | passThrough => simp only [Setting.convertWith, h.node.outerHtml_eq]
  | drop => rw [Setting.convertWith, Setting.convertWith]
  | bypass => simp only [Setting.convertWith, hcc]

include htext in
theorem Cursor.Padded.convertWith_eq {c c' : Cursor} (h : c.Padded c') (r : Rule) :
    s.convertWith r c' = s.convertWith r c :=
  h.convertWith_eq_of htext (fun _ hd r => hd.convertWith_eq r) r
termination_by sizeOf c.node

include htext in
/-- A node of the padding converts as the node at the same place of the tree. -/
theorem Cursor.Padded.convert_eq {c c' : Cursor} (h : c.Padded c') : s.convert c' = s.convert c :=
  s.convert_eq_of_convertWith h.ruleFor_eq (h.convertWith_eq htext)

end Conversion

end HtmlMarkdown
