import HtmlMarkdown.Proofs.Unnesting
import HtmlMarkdown.Proofs.EmphasisRuns
import HtmlMarkdown.Proofs.DepthGuard

namespace HtmlMarkdown

/-- Whether a rule writes the node as markup, with all that is below it. -/
def Rule.writesMarkup (c : Cursor) : Rule → Bool
  | .comment | .passThrough => true
  | .list => c.hasAncestor "table"
  | .table => hasSpans c.node
  | _ => false

/-- What conversion needs at a place for the rewrite to stay unseen. -/
structure Setting.Unnestable (s : Setting) (c : Cursor) : Prop where
  markup : ∀ r, s.ruleFor c = .ok r → r.writesMarkup c = true → c.unnest.node = c.node
  backslash : c.isNestedEmphasis = true → ∀ X, s.convertChildren c = .ok X →
    trailingBackslashes X.toList ≠ 1

theorem Setting.layoutStep_of_ruleFor {s : Setting} {layout : Layout} {mode : ShortcodeMode}
    {acc : String × String} {d : Cursor} {r : Rule} (hr : s.ruleFor d = .ok r) :
    s.layoutStep layout mode acc d = (do
      let converted := (← s.convertWith r d).render
      if r.isBlock && !defersToContainer d then
        pure ((← flushRun layout mode acc.1 acc.2) ++ converted, "")
      else pure (acc.1, acc.2 ++ converted)) := by
  rw [Setting.layoutStep, hr]
  rfl

theorem Registry.builtIn_get?_of_isEmphasis {n : Node} (h : n.isEmphasis = true) :
    Registry.builtIn.get? n.name = some .emphasis := by
  simp only [Node.isEmphasis, Node.isTag, Bool.or_eq_true, Bool.and_eq_true, beq_iff_eq] at h
  rcases h with ⟨-, h⟩ | ⟨-, h⟩ <;> rw [h] <;> decide

theorem Registry.builtIn_get?_of_isStrong {n : Node} (h : n.isStrong = true) :
    Registry.builtIn.get? n.name = some .strong := by
  simp only [Node.isStrong, Node.isTag, Bool.or_eq_true, Bool.and_eq_true, beq_iff_eq] at h
  rcases h with ⟨-, h⟩ | ⟨-, h⟩ <;> rw [h] <;> decide

section RuleOf

variable {s : Setting} {c : Cursor}

theorem Setting.ruleFor_unnest_of_not (hn : c.isNestedEmphasis = false) :
    s.ruleFor c.unnest = s.ruleFor c := by
  have hel : c.unnest.node.isElement = c.node.isElement := Node.isElement_unnestEmphasis
  rw [Setting.ruleFor, Setting.ruleFor, hel, Cursor.tag_unnest hn]

variable (hreg : s.registry = Registry.builtIn)
include hreg

theorem Setting.ruleFor_unnest_of_nested (hspan : s.options.isPassThrough "span" = false)
    (hn : c.isNestedEmphasis = true) : s.ruleFor c.unnest = .ok .bypass := by
  have hget : Registry.builtIn.get? "span" = some .bypass := by decide
  rw [Setting.ruleFor, Cursor.tag_unnest_of_nested hn, hspan, Bool.and_false,
    if_neg Bool.false_ne_true, hreg, hget]

theorem Setting.ruleFor_of_nested (hn : c.isNestedEmphasis = true) :
    s.ruleFor c = .ok .passThrough ∨ (s.ruleFor c = .ok .emphasis ∧ emphasisAbove c.path = true) ∨
      (s.ruleFor c = .ok .strong ∧ strongAbove c.path = true) := by
  rw [Setting.ruleFor, hreg]
  split
  · exact .inl rfl
  · cases he : c.node.isEmphasis with
    | false =>
      have hs : strongAbove c.path = true ∧ c.node.isStrong = true := by
        simpa [Cursor.isNestedEmphasis, Node.isNestedIn, he] using hn
      rw [Cursor.tag, Registry.builtIn_get?_of_isStrong hs.2]
      exact .inr (.inr ⟨rfl, hs.1⟩)
    | true =>
      have hs := Node.isStrong_eq_false_of_isEmphasis he
      have hem : emphasisAbove c.path = true := by
        simpa [Cursor.isNestedEmphasis, Node.isNestedIn, he, hs] using hn
      rw [Cursor.tag, Registry.builtIn_get?_of_isEmphasis he]
      exact .inr (.inl ⟨rfl, hem⟩)

theorem Setting.Unnestable.ruleFor_of_nested (hu : s.Unnestable c)
    (hn : c.isNestedEmphasis = true) :
    (s.ruleFor c = .ok .emphasis ∧ emphasisAbove c.path = true) ∨
      (s.ruleFor c = .ok .strong ∧ strongAbove c.path = true) := by
  rcases Setting.ruleFor_of_nested hreg hn with hr | h
  · -- kept as markup, the node would have to be left as it is, but it is renamed
    exact absurd (hu.markup .passThrough hr rfl) (Cursor.unnest_node_ne_of_nested hn)
  · exact h

theorem Setting.Unnestable.ruleFor_unnest (hspan : s.options.isPassThrough "span" = false)
    (hu : s.Unnestable c) :
    (∃ e, s.ruleFor c = .error e ∧ s.ruleFor c.unnest = .error e) ∨
      ∃ r r', s.ruleFor c = .ok r ∧ s.ruleFor c.unnest = .ok r' ∧ r'.isBlock = r.isBlock ∧
        defersToContainer c.unnest = defersToContainer c := by
  cases hn : c.isNestedEmphasis with
  | false =>
    rw [Setting.ruleFor_unnest_of_not hn, defersToContainer_unnest hn]
    cases s.ruleFor c with
    | error e => exact .inl ⟨e, rfl, rfl⟩
    | ok r => exact .inr ⟨r, r, rfl, rfl, rfl, rfl⟩
  | true =>
    obtain ⟨hd', hd⟩ := defersToContainer_of_nested hn
    rw [hd', hd, Setting.ruleFor_unnest_of_nested hreg hspan hn]
    rcases hu.ruleFor_of_nested hreg hn with ⟨hr, -⟩ | ⟨hr, -⟩
    · exact .inr ⟨_, _, hr, rfl, rfl, rfl⟩
    · exact .inr ⟨_, _, hr, rfl, rfl, rfl⟩

theorem Setting.Unnestable.convert_unnest (hspan : s.options.isPassThrough "span" = false)
    (hu : s.Unnestable c)
    (hw : ∀ {r r' : Rule}, s.ruleFor c = .ok r → s.ruleFor c.unnest = .ok r' →
      s.convertWith r' c.unnest = s.convertWith r c) :
    s.convert c.unnest = s.convert c := by
  rcases hu.ruleFor_unnest hreg hspan with ⟨e, h1, h2⟩ | ⟨r, r', h1, h2, -, -⟩
  · rw [Setting.convert, Setting.convert, h1, h2]
    rfl
  · rw [Setting.convert_of_ruleFor h2, Setting.convert_of_ruleFor h1, hw h1 h2]

theorem Setting.Unnestable.layoutStep_unnest (hspan : s.options.isPassThrough "span" = false)
    (hu : s.Unnestable c)
    (hw : ∀ {r r' : Rule}, s.ruleFor c = .ok r → s.ruleFor c.unnest = .ok r' →
      s.convertWith r' c.unnest = s.convertWith r c)
    (layout : Layout) (mode : ShortcodeMode) (acc : String × String) :
    s.layoutStep layout mode acc c.unnest = s.layoutStep layout mode acc c := by
  rcases hu.ruleFor_unnest hreg hspan with ⟨e, h1, h2⟩ | ⟨r, r', h1, h2, hblock, hdefer⟩
  · rw [Setting.layoutStep, Setting.layoutStep, h1, h2]
    rfl
  · rw [Setting.layoutStep_of_ruleFor h2, Setting.layoutStep_of_ruleFor h1, hw h1 h2, hblock,
      hdefer]

end RuleOf

theorem foldlM_map_unnest {β : Type} {f : β → Cursor → Except ConvertError β} {ds : List Cursor}
    (h : ∀ d ∈ ds, ∀ acc, f acc d.unnest = f acc d) (acc : β) :
    (ds.map Cursor.unnest).foldlM f acc = ds.foldlM f acc := by
  induction ds generalizing acc with
  | nil => rfl
  | cons d ds ih =>
    rw [List.map_cons, List.foldlM_cons, List.foldlM_cons, h d List.mem_cons_self acc]
    congr 1
    funext acc'
    exact ih (fun e he => h e (List.mem_cons_of_mem d he)) acc'

theorem delimitedFragment_of_nested {kind : List String} {delim : String} {c : Cursor}
    {X : String} (hnested : c.ancestors.any (fun a => kind.any a.isTag) = true)
    (hX : trailingBackslashes X.toList ≠ 1) : delimitedFragment kind delim c X = .ofContent X := by
  have hlone : (X.toList.getLast? == some '\\' && !(X.toList.reverse.take 2 == ['\\', '\\'])) =
      false := Bool.eq_false_iff.2 fun h => hX ((lone_trailing_backslash_iff X.toList).1 h)
  rw [delimitedFragment]
  simp only [hlone, hnested, Bool.or_true, Bool.false_eq_true, if_false, if_true]

theorem Setting.convertWith_paragraph_malformed (s : Setting) {c : Cursor} {t : String}
    (ht : t = "ol" ∨ t = "ul") (h : c.parentTag? = some t) :
    s.convertWith .paragraph c = .error (.malformedList t) := by
  rw [Setting.convertWith.eq_def]
  rcases ht with rfl | rfl <;> simp [h]

section Conversion

variable {s : Setting} (hreg : s.registry = Registry.builtIn)
  (hspan : s.options.isPassThrough "span" = false)

section Step

variable {c : Cursor} (h : c.Throughout s.Unnestable)
  (ih : ∀ {d : Cursor}, sizeOf d.node < sizeOf c.node → d.Throughout s.Unnestable →
    ∀ {r r' : Rule}, s.ruleFor d = .ok r → s.ruleFor d.unnest = .ok r' →
      s.convertWith r' d.unnest = s.convertWith r d)
include hreg hspan h ih

theorem Cursor.Throughout.convertChildren_unnest :
    s.convertChildren c.unnest = s.convertChildren c := by
  rw [Setting.convertChildren_eq, Setting.convertChildren_eq, Cursor.children_unnest]
  refine foldlM_map_unnest (fun d hd acc => ?_) ""
  have hd' := h.of_mem_children hd
  rw [hd'.self.convert_unnest hreg hspan (ih (Cursor.sizeOf_lt_of_mem_children hd) hd')]

theorem Cursor.Throughout.formatChildren_unnest (layout : Layout) (mode : ShortcodeMode) :
    s.formatChildren c.unnest layout mode = s.formatChildren c layout mode := by
  rw [Setting.formatChildren_eq, Setting.formatChildren_eq, Cursor.children_unnest,
    foldlM_map_unnest fun d hd acc => (h.of_mem_children hd).self.layoutStep_unnest hreg hspan
      (ih (Cursor.sizeOf_lt_of_mem_children hd) (h.of_mem_children hd)) layout mode acc]

end Step

include hreg hspan in
theorem Cursor.Throughout.divContent_unnest {c : Cursor} (h : c.Throughout s.Unnestable)
    (ih : ∀ {d : Cursor}, sizeOf d.node < sizeOf c.node → d.Throughout s.Unnestable →
      ∀ {r r' : Rule}, s.ruleFor d = .ok r → s.ruleFor d.unnest = .ok r' →
        s.convertWith r' d.unnest = s.convertWith r d)
    (layout : Layout) (mode : ShortcodeMode) :
    s.divContent c.unnest layout mode = s.divContent c layout mode := by
  have hf : c.unnest.children.filter (fun d => !d.node.isBlankText) =
      (c.children.filter fun d => !d.node.isBlankText).map Cursor.unnest := by
    rw [Cursor.children_unnest, List.filter_map]
    congr 2
    funext d
    simp only [Function.comp_apply, Cursor.unnest, Node.isBlankText_unnestEmphasis]
  by_cases hone : ∃ d, c.children.filter (fun d => !d.node.isBlankText) = [d]
  · -- one child renders: the chain goes on below it when it is a div
    obtain ⟨d, hd⟩ := hone
    have hmem : d ∈ c.children :=
      (List.mem_filter.1 (hd ▸ List.mem_singleton_self d : d ∈ c.children.filter _)).1
    rw [hd, List.map_singleton] at hf
    rw [Setting.divContent_of_eq layout hd, Setting.divContent_of_eq layout hf,
      Cursor.isTag_unnest (by decide)]
    split
    · exact (h.of_mem_children hmem).divContent_unnest
        (fun hlt hd => ih (hlt.trans (Cursor.sizeOf_lt_of_mem_children hmem)) hd)
        layout mode
    · exact h.formatChildren_unnest hreg hspan ih layout mode
  · -- otherwise both lay out their own children
    have hne : ∀ d, c.children.filter (fun d => !d.node.isBlankText) ≠ [d] :=
      fun d hd => hone ⟨d, hd⟩
    have hne' : ∀ d', c.unnest.children.filter (fun d => !d.node.isBlankText) ≠ [d'] := by
      intro d' hd'
      rw [hf, List.map_eq_singleton_iff] at hd'
      obtain ⟨d, hd, -⟩ := hd'
      exact hne d hd
    rw [Setting.divContent_of_ne layout hne, Setting.divContent_of_ne layout hne']
    exact h.formatChildren_unnest hreg hspan ih layout mode
termination_by sizeOf c.node
decreasing_by exact Cursor.sizeOf_lt_of_mem_children hmem

section Rules

variable {c : Cursor} (hu : s.Unnestable c)
  (hcc : s.convertChildren c.unnest = s.convertChildren c)

include hreg hspan hu hcc in
theorem Setting.Unnestable.convertWith_unnest_of_nested (hn : c.isNestedEmphasis = true)
    {r r' : Rule} (hr : s.ruleFor c = .ok r) (hr' : s.ruleFor c.unnest = .ok r') :
    s.convertWith r' c.unnest = s.convertWith r c := by
  rw [Setting.ruleFor_unnest_of_nested hreg hspan hn, Except.ok.injEq] at hr'
  subst hr'
  rcases hu.ruleFor_of_nested hreg hn with ⟨hr0, habove⟩ | ⟨hr0, habove⟩ <;>
    rw [hr0, Except.ok.injEq] at hr <;> subst hr
  · rw [Setting.convertWith_bypass, Setting.convertWith_emphasis, hcc]
    cases hX : s.convertChildren c with
    | error e => rfl
    | ok X => exact congrArg Except.ok (delimitedFragment_of_nested
        ((Cursor.ancestors_any_emphasis c).trans habove) (hu.backslash hn X hX)).symm
  · rw [Setting.convertWith_bypass, Setting.convertWith_strong, hcc]
    cases hX : s.convertChildren c with
    | error e => rfl
    | ok X => exact congrArg Except.ok (delimitedFragment_of_nested
        ((Cursor.ancestors_any_strong c).trans habove) (hu.backslash hn X hX)).symm

include hu hcc in
theorem Setting.Unnestable.convertWith_unnest_of_kept (hn : c.isNestedEmphasis = false)
    (hfc : ∀ layout mode, s.formatChildren c.unnest layout mode = s.formatChildren c layout mode)
    (hdc : ∀ layout mode, s.divContent c.unnest layout mode = s.divContent c layout mode)
    {r : Rule} (hr : s.ruleFor c = .ok r) :
    s.convertWith r c.unnest = s.convertWith r c := by
  have hmarkup : r.writesMarkup c = true → c.unnest.node = c.node := hu.markup r hr
  have hol := Cursor.parentTag?_unnest_eq_some_iff (show "ol" ∉ Node.unnestedTags by decide) c
  have hul := Cursor.parentTag?_unnest_eq_some_iff (show "ul" ∉ Node.unnestedTags by decide) c
  have htable : c.unnest.hasAncestor "table" = c.hasAncestor "table" :=
    Cursor.hasAncestor_unnest (by decide)
  cases r with
  | text => simp only [Setting.convertWith, textMarkdown_unnest]
  | comment => simp only [Setting.convertWith, hmarkup rfl]
  | paragraph =>
    by_cases hol0 : c.parentTag? = some "ol"
    · rw [Setting.convertWith_paragraph_malformed s (.inl rfl) hol0,
        Setting.convertWith_paragraph_malformed s (.inl rfl) (hol.2 hol0)]
    by_cases hul0 : c.parentTag? = some "ul"
    · rw [Setting.convertWith_paragraph_malformed s (.inr rfl) hul0,
        Setting.convertWith_paragraph_malformed s (.inr rfl) (hul.2 hul0)]
    rw [Setting.convertWith_paragraph s (mt hol.1 hol0) (mt hul.1 hul0),
      Setting.convertWith_paragraph s hol0 hul0]
    simp only [resolveLayout_unnest _ hn, chunkerFor_unnest, hfc, cellPrefix_unnest,
      cellSuffix_unnest]
  | div =>
    have hcontent : c.unnest.node.contentChildren = c.node.contentChildren.map
        (Node.unnestEmphasis (c.node.isEmphasis || emphasisAbove c.path)
          (c.node.isStrong || strongAbove c.path)) :=
      Node.contentChildren_unnestEmphasis _ _ _
    rw [Setting.convertWith_div, Setting.convertWith_div, resolveLayout_unnest _ hn,
      chunkerFor_unnest, hdc, cellPrefix_unnest, cellSuffix_unnest, hcontent]
    -- a div with one child that renders reads that child's tag, which is kept
    cases c.node.contentChildren with
    | nil => rfl
    | cons only rest =>
      cases rest with
      | nil => simp only [List.map_cons, List.map_nil, Node.any_isTag_unnestEmphasis
          (show ∀ t ∈ ["p", "pre", "ol", "table"], t ∉ Node.unnestedTags by decide)]
      | cons => rfl
  | aside => simp only [Setting.convertWith, hcc]
  | blockquote =>
    simp only [Setting.convertWith, resolveLayout_unnest _ hn, chunkerFor_unnest, hfc,
      trimBlock_unnest _ hn]
  | list =>
    by_cases ht : c.hasAncestor "table" = true
    · simp only [Setting.convertWith, htable, ht, if_true,
        hmarkup (by simp [Rule.writesMarkup, ht])]
    · simp only [Setting.convertWith, htable, ht, Bool.false_eq_true, if_false, hcc,
        Cursor.parentTag?_unnest_beq (show "ol" ∉ Node.unnestedTags by decide),
        Cursor.parentTag?_unnest_beq (show "ul" ∉ Node.unnestedTags by decide)]
  | listItem =>
    simp only [Setting.convertWith, listItemMarker_unnest, resolveLayout_unnest _ hn,
      chunkerFor_unnest, hfc, trimBlock_unnest _ hn]
  | table =>
    have hsp : hasSpans c.unnest.node = hasSpans c.node := Node.hasSpans_unnestEmphasis _ _ _
    by_cases hs : hasSpans c.node = true
    · simp only [Setting.convertWith, hs, if_true, hmarkup (by simp [Rule.writesMarkup, hs])]
    · simp only [Setting.convertWith, hsp, hs, Bool.false_eq_true, if_false, hcc,
        tablePrefix_unnest]
  | row => simp only [Setting.convertWith, hcc, rowFragment_unnest]
  | cell => simp only [Setting.convertWith, hcc]
  | codeBlock => simp only [Setting.convertWith, codeBlockFragment_unnest]
  | code => simp only [Setting.convertWith, Cursor.innerText_unnest]
  | emphasis => simp only [Setting.convertWith, hcc, delimitedFragment_emphasis_unnest]
  | strong => simp only [Setting.convertWith, hcc, delimitedFragment_strong_unnest]
  | strikethrough => simp only [Setting.convertWith, hcc]
  | link => simp only [Setting.convertWith, hcc, linkFragment_unnest]
  | image => simp only [Setting.convertWith, imageFragment_unnest]
  | lineBreak => simp only [Setting.convertWith, lineBreakFragment_unnest]
  | horizontalRule => rw [Setting.convertWith, Setting.convertWith]
  | heading => simp only [Setting.convertWith, hcc, headingFragment_unnest hn]
  | passThrough => simp only [Setting.convertWith, hmarkup rfl]
  | drop => rw [Setting.convertWith, Setting.convertWith]
  | bypass => simp only [Setting.convertWith, hcc]

end Rules

include hreg hspan in
theorem Cursor.Throughout.convertWith_unnest_of {c : Cursor} (h : c.Throughout s.Unnestable)
    (ih : ∀ {d : Cursor}, sizeOf d.node < sizeOf c.node → d.Throughout s.Unnestable →
      ∀ {r r' : Rule}, s.ruleFor d = .ok r → s.ruleFor d.unnest = .ok r' →
        s.convertWith r' d.unnest = s.convertWith r d)
    {r r' : Rule} (hr : s.ruleFor c = .ok r) (hr' : s.ruleFor c.unnest = .ok r') :
    s.convertWith r' c.unnest = s.convertWith r c := by
  have hcc := h.convertChildren_unnest hreg hspan ih
  cases hn : c.isNestedEmphasis with
  | true => exact h.self.convertWith_unnest_of_nested hreg hspan hcc hn hr hr'
  | false =>
    rw [Setting.ruleFor_unnest_of_not hn, hr, Except.ok.injEq] at hr'
    subst hr'
    exact h.self.convertWith_unnest_of_kept hcc hn (h.formatChildren_unnest hreg hspan ih)
      (h.divContent_unnest hreg hspan ih) hr

include hreg hspan in
theorem Cursor.Throughout.convertWith_unnest {c : Cursor} (h : c.Throughout s.Unnestable)
    {r r' : Rule} (hr : s.ruleFor c = .ok r) (hr' : s.ruleFor c.unnest = .ok r') :
    s.convertWith r' c.unnest = s.convertWith r c :=
  h.convertWith_unnest_of hreg hspan (fun _ hd => hd.convertWith_unnest) hr hr'
termination_by sizeOf c.node

include hreg hspan in
theorem Cursor.Throughout.convert_unnest {c : Cursor} (h : c.Throughout s.Unnestable) :
    s.convert c.unnest = s.convert c :=
  h.self.convert_unnest hreg hspan (h.convertWith_unnest hreg hspan)

end Conversion

/-- Nested emphasis is transparent: a tree converts as its unnested tree. -/
theorem Service.convert_unnestEmphasis {o : Options} (hspan : o.isPassThrough "span" = false)
    {t : Node}
    (h : (Cursor.root t.normalizeTree).Throughout (Setting.Unnestable ⟨o, Registry.builtIn⟩)) :
    (Service.withOptions o).convert (t.unnestEmphasis false false) =
      (Service.withOptions o).convert t := by
  have hroot : Setting.convert ⟨o, Registry.builtIn⟩
      (Cursor.root (t.unnestEmphasis false false).normalizeTree) =
      Setting.convert ⟨o, Registry.builtIn⟩ (Cursor.root t.normalizeTree) := by
    rw [Node.normalizeTree_unnestEmphasis, ← Cursor.unnest_root]
    exact h.convert_unnest rfl hspan
  rw [Service.convert_eq, Service.convert_eq, Node.maxDepth_unnestEmphasis]
  split
  · simp only [Service.render, Service.withOptions]
    rw [hroot]
  · rfl

theorem Node.normalizeWhitespace_of_solid {n : Node}
    (h : ∀ m ∈ n.children, (m.isText = true ∧ ∀ x ∈ m.value.toList, isMarkupBlank x = false) ∨
      (m.isElement = true ∧ m.isTag "pre" = false ∧ m.normalizeWhitespace false = m)) :
    n.normalizeWhitespace false = n := by
  have hkids : (n.normalizeWhitespace false).children = n.children := by
    rw [Node.normalizeWhitespace_children]
    conv_rhs => rw [← List.zipIdx_map_fst 0 n.children]
    refine List.map_congr_left fun ⟨m, i⟩ hm => ?_
    show m.normalizeChild false n.isBlockElement (n.children.map isBlockElement) i = m
    rcases h m (List.fst_mem_of_mem_zipIdx hm) with ⟨ht, hv⟩ | ⟨he, hpre, hself⟩
    · rw [Node.normalizeChild_of_isText ht, normalizeValue_of_solid hv]
      cases m
      rfl
    · rw [Node.normalizeChild_of_isElement he, Bool.false_or, hpre, hself]
  rw [Node.normalizeWhitespace_eq_mk, hkids]
  cases n
  rfl

def doubledEmphasis : Node := ⟨.element, "em", "", [], [⟨.element, "em", "", [], [.text "x"]⟩]⟩

theorem doubledEmphasis_normalizeTree : doubledEmphasis.normalizeTree = doubledEmphasis := by
  have hword : (⟨.element, "em", "", [], [.text "x"]⟩ : Node).normalizeWhitespace false =
      ⟨.element, "em", "", [], [.text "x"]⟩ :=
    Node.normalizeWhitespace_of_solid fun m hm => by
      rw [List.mem_singleton.1 hm]
      exact .inl ⟨rfl, solid_of_word (by simp [Node.text])⟩
  rw [Node.normalizeTree, show doubledEmphasis.isTag "pre" = false by decide]
  exact Node.normalizeWhitespace_of_solid fun m hm => by
    rw [List.mem_singleton.1 hm]
    exact .inr ⟨rfl, by decide, hword⟩

theorem doubledEmphasis_unnestable :
    (Cursor.root doubledEmphasis.normalizeTree).Throughout
      (Setting.Unnestable ⟨{}, Registry.builtIn⟩) := by
  have hemph : ∀ c : Cursor, c.node.isTag "em" = true →
      Setting.ruleFor ⟨{}, Registry.builtIn⟩ c = .ok .emphasis :=
    fun c hc => Setting.ruleFor_of_isTag rfl rfl hc (by decide)
  have hkept : ∀ {c : Cursor} {r : Rule}, c.node.isTag "em" = true →
      Setting.ruleFor ⟨{}, Registry.builtIn⟩ c = .ok r → r.writesMarkup c = true →
        c.unnest.node = c.node := fun hc hr hw => by
    rw [hemph _ hc, Except.ok.injEq] at hr
    subst hr
    exact absurd hw Bool.false_ne_true
  rw [doubledEmphasis_normalizeTree]
  refine .intro ⟨fun _ => hkept rfl, fun hn => absurd hn (by decide)⟩ fun d hd => ?_
  rw [show (Cursor.root doubledEmphasis).children =
    [⟨⟨.element, "em", "", [], [.text "x"]⟩, [⟨doubledEmphasis, 0⟩]⟩] from rfl,
    List.mem_singleton] at hd
  subst hd
  -- the inner emphasis is renamed, and its word ends in no backslash
  refine .intro ⟨fun _ => hkept rfl, fun _ X hX => ?_⟩ fun d hd => ?_
  · rw [Setting.convertChildren_word rfl rfl rfl (by decide) (by simp), Except.ok.injEq] at hX
    subst hX
    decide
  rw [show Cursor.children ⟨⟨.element, "em", "", [], [.text "x"]⟩, [⟨doubledEmphasis, 0⟩]⟩ =
    [⟨.text "x", [⟨⟨.element, "em", "", [], [.text "x"]⟩, 0⟩, ⟨doubledEmphasis, 0⟩]⟩] from rfl,
    List.mem_singleton] at hd
  subst hd
  refine .intro ⟨fun r hr hw => ?_, fun hn => absurd hn (by decide)⟩ fun d hd => absurd hd
    List.not_mem_nil
  rw [show Setting.ruleFor ⟨{}, Registry.builtIn⟩ _ = .ok .text from rfl, Except.ok.injEq] at hr
  subst hr
  exact absurd hw Bool.false_ne_true

theorem convert_unnestEmphasis_doubled :
    ({} : Options).isPassThrough "span" = false ∧
      (Cursor.root doubledEmphasis.normalizeTree).Throughout
        (Setting.Unnestable ⟨{}, Registry.builtIn⟩) ∧
      (Service.withOptions {}).convert (doubledEmphasis.unnestEmphasis false false) =
        (Service.withOptions {}).convert doubledEmphasis :=
  ⟨rfl, doubledEmphasis_unnestable, Service.convert_unnestEmphasis rfl doubledEmphasis_unnestable⟩

theorem Service.convert_of_passThrough {o : Options} {t : Node} (hdepth : t.maxDepth ≤ o.maxDepth)
    (hnorm : t.normalizeTree = t)
    (hrule : Setting.ruleFor ⟨o, Registry.builtIn⟩ (Cursor.root t) = .ok .passThrough) :
    (Service.withOptions o).convert t =
      .ok (if o.collapseBlankLines then collapseBlankLines t.outerHtml else t.outerHtml) := by
  have hf : Setting.convertWith ⟨o, Registry.builtIn⟩ .passThrough (Cursor.root t) =
      .ok (.ofContent t.outerHtml) := by
    simp only [Setting.convertWith]
    rfl
  rw [Service.convert_eq,
    if_pos (show t.maxDepth ≤ (Service.withOptions o).options.maxDepth from hdepth)]
  simp only [Service.render, Service.withOptions, hnorm, Setting.convert_of_ok hrule hf,
    Fragment.render, Fragment.ofContent, String.empty_append, String.append_empty]
  rfl

def keptDoubledEmphasis : Node := ⟨.element, "foo", "", [], [doubledEmphasis]⟩

theorem nested_emphasis_kept_as_markup :
    (Service.withOptions {}).convert keptDoubledEmphasis = .ok "<foo><em><em>x</em></em></foo>" ∧
      (Service.withOptions {}).convert (keptDoubledEmphasis.unnestEmphasis false false) =
        .ok "<foo><em><span>x</span></em></foo>" := by
  have hnorm : keptDoubledEmphasis.normalizeTree = keptDoubledEmphasis := by
    rw [Node.normalizeTree, show keptDoubledEmphasis.isTag "pre" = false by decide]
    exact Node.normalizeWhitespace_of_solid fun m hm => by
      rw [List.mem_singleton.1 hm]
      exact .inr ⟨rfl, by decide, doubledEmphasis_normalizeTree⟩
  have hnorm' : (keptDoubledEmphasis.unnestEmphasis false false).normalizeTree =
      keptDoubledEmphasis.unnestEmphasis false false := by
    rw [Node.normalizeTree_unnestEmphasis, hnorm]
  have hmarkup : collapseBlankLines keptDoubledEmphasis.outerHtml =
        "<foo><em><em>x</em></em></foo>" ∧
      collapseBlankLines (keptDoubledEmphasis.unnestEmphasis false false).outerHtml =
        "<foo><em><span>x</span></em></foo>" := by
    decide +kernel
  rw [Service.convert_of_passThrough (by decide) hnorm rfl,
    Service.convert_of_passThrough (by decide) hnorm' rfl]
  exact ⟨congrArg Except.ok hmarkup.1, congrArg Except.ok hmarkup.2⟩

end HtmlMarkdown
