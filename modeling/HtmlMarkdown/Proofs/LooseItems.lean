import HtmlMarkdown.Proofs.BlankBetweenBlocks

namespace HtmlMarkdown

section Words

variable {l : List Char}

theorem collapseBlanks_of_solid (h : ∀ x ∈ l, isMarkupBlank x = false) (blank : Bool) :
    collapseBlanks blank l = l := by
  induction l generalizing blank with
  | nil => rfl
  | cons x l ih =>
    rw [collapseBlanks, if_neg (by simp [h x List.mem_cons_self]),
      ih (fun y hy => h y (List.mem_cons_of_mem x hy)) false]

theorem dropWhile_space_of_solid (h : ∀ x ∈ l, isMarkupBlank x = false) :
    l.dropWhile (· == ' ') = l := by
  cases l with
  | nil => rfl
  | cons x l =>
    have hx : (x == ' ') = false := by
      have := h x List.mem_cons_self
      simp only [isMarkupBlank, Bool.or_eq_false_iff] at this
      exact this.1.1.1.1
    rw [List.dropWhile_cons_of_neg (by simp [hx])]

theorem dropEndBy_space_of_solid (h : ∀ x ∈ l, isMarkupBlank x = false) :
    dropEndBy (· == ' ') l = l := by
  rw [dropEndBy, dropWhile_space_of_solid (fun x hx => h x (List.mem_reverse.1 hx)),
    List.reverse_reverse]

theorem normalizeValue_of_solid {v : String} (h : ∀ x ∈ v.toList, isMarkupBlank x = false)
    (trimStart trimEnd : Bool) : normalizeValue v trimStart trimEnd = v := by
  cases trimStart <;> cases trimEnd <;>
    simp [normalizeValue, collapseBlanks_of_solid h, dropWhile_space_of_solid h,
      dropEndBy_space_of_solid h]

theorem normalizeValue_space_solid {v : String} (h : ∀ x ∈ v.toList, isMarkupBlank x = false)
    (trimEnd : Bool) : normalizeValue (" " ++ v) true trimEnd = v := by
  have hcs : collapseBlanks false (' ' :: v.toList) = ' ' :: v.toList := by
    simp only [collapseBlanks, show isMarkupBlank ' ' = true from rfl, if_true, Bool.false_eq_true,
      if_false, collapseBlanks_of_solid h]
  cases trimEnd <;>
    simp [normalizeValue, hcs, dropWhile_space_of_solid h, dropEndBy_space_of_solid h]

theorem solid_of_word {v : String} (hv : ∀ x ∈ v.toList, x.isAlphanum) :
    ∀ x ∈ v.toList, isMarkupBlank x = false :=
  fun x hx => isMarkupBlank_of_isAlphanum (hv x hx)

theorem plainLine_of_word {v : List Char} (hv : ∀ x ∈ v, x.isAlphanum) : PlainLine v where
  chars x hx := .inl (hv x hx)
  head h := by
    have := hv ' ' (List.mem_of_mem_head? h)
    simp at this
  last h := by
    have := hv ' ' (List.mem_of_getLast? h)
    simp at this

/-- A word, letters and digits only, converts to itself. -/
theorem textMarkdown_word {o : Options} (ho : o.escapeRules = defaultEscapeRules) {c : Cursor}
    {v : String} (hc : c.node = .text v) (hne : v ≠ "") (hv : ∀ x ∈ v.toList, x.isAlphanum) :
    textMarkdown o c = v := by
  have hplain : ∀ x ∈ v.toList, x.isAlphanum ∨ x = ' ' := fun x hx => .inl (hv x hx)
  have hblank : c.node.isBlankText = false := by
    obtain ⟨x, t, hxt⟩ := List.exists_cons_of_ne_nil (mt String.toList_eq_nil_iff.1 hne)
    have hx := isMarkupBlank_of_isAlphanum (hv x (by rw [hxt]; exact List.mem_cons_self))
    simp [hc, Node.isBlankText, Node.text, Node.isText, hxt, hx]
  unfold textMarkdown
  rw [if_neg (by simp [hblank]), hc, ho]
  exact (congrArg (escape defaultEscapeRules) (decodeText_plain hplain)).trans (escape_plain hplain)

theorem flushRun_fitting {layout : Layout} {W : Nat} (hw : layout.width = some W)
    (content : String) {run : String} (hrun : PlainLine run.toList) (hne : run ≠ "")
    (hlen : run.toList.length ≤ W) :
    flushRun layout .disabled content run = .ok (content ++ run) := by
  have he : run.isEmpty = false := by simpa [String.isEmpty_iff] using hne
  have htext : (if layout.canTrim && isWhiteText content then trimWhiteStart run else run) = run := by
    split
    · rw [trimWhiteStart, hrun.dropWhite_eq, String.ofList_toList]
    · rfl
  have hlf : '\n' ∉ run.toList := hrun.not_mem rfl (by decide)
  have hcr : '\r' ∉ run.toList := hrun.not_mem rfl (by decide)
  unfold flushRun
  simp only [he, Bool.false_eq_true, if_false, htext, Layout.wrap, hw]
  have hwrap : wrapText .disabled W run = .ok run := by
    rw [← String.ofList_toList (s := run), wrapText_of_line _ _ hlf (by simpa using hne),
      dropCarriageReturn_of_not_mem hcr, wrapLine_of_fits _ hlf hlen]
  rw [hwrap]

end Words

theorem dropWhile_of_head {p : Char → Bool} {l : List Char} (h : ∀ x ∈ l.head?, p x = false) :
    l.dropWhile p = l := by
  cases l with
  | nil => rfl
  | cons x t => exact List.dropWhile_cons_of_neg (by simpa using h x rfl)

theorem trimWhite_of_ends {s : String} (hh : ∀ x ∈ s.toList.head?, isWhite x = false)
    (hl : ∀ x ∈ s.toList.getLast?, isWhite x = false) : trimWhite s = s := by
  rw [trimWhite, stripWhite, dropWhite, dropWhile_of_head hh, dropWhiteEnd,
    dropWhile_of_head (by simpa [List.head?_reverse] using hl), List.reverse_reverse,
    String.ofList_toList]

theorem trimWhite_word {v : String} (hv : ∀ x ∈ v.toList, x.isAlphanum) : trimWhite v = v :=
  trimWhite_of_ends (fun x hx => isWhite_of_isAlphanum (hv x (List.mem_of_mem_head? hx)))
    (fun x hx => isWhite_of_isAlphanum (hv x (List.mem_of_getLast? hx)))

theorem trimWhite_append_lineFeed {s : String} (hh : ∀ x ∈ s.toList.head?, isWhite x = false)
    (hl : ∀ x ∈ s.toList.getLast?, isWhite x = false) (hne : s ≠ "") :
    trimWhite (s ++ "\n") = s := by
  obtain ⟨x, t, hxt⟩ := List.exists_cons_of_ne_nil (mt String.toList_eq_nil_iff.1 hne)
  have hh' : ∀ y ∈ (s ++ "\n").toList.head?, isWhite y = false := by
    simpa [String.toList_append, hxt] using hh
  rw [trimWhite, stripWhite, dropWhite, dropWhile_of_head hh', dropWhiteEnd, String.toList_append,
    List.reverse_append, show "\n".toList.reverse = ['\n'] from rfl, List.singleton_append,
    List.dropWhile_cons_of_pos (by decide),
    dropWhile_of_head (by simpa [List.head?_reverse] using hl), List.reverse_reverse,
    String.ofList_toList]

theorem hangingIndent_of_not_mem {content : String} (h : '\n' ∉ content.toList) (width : Nat) :
    hangingIndent width content = content := by
  unfold hangingIndent
  dsimp only
  rw [List.dropWhile_eq_nil_iff.2 fun x hx => by
    simp only [bne_iff_ne, ne_eq]
    rintro rfl
    exact h hx]

section Breaks

variable {x : Char} (hn : x ≠ '\n') (hr : x ≠ '\r')
include hn hr

theorem takeBreaks_solid (rest : List Char) : takeBreaks (x :: rest) = (0, x :: rest) := by
  unfold takeBreaks
  split <;> simp_all

theorem collapseInnerBreaks_solid (rest : List Char) :
    collapseInnerBreaks (x :: rest) = x :: collapseInnerBreaks rest := by
  rw [collapseInnerBreaks, takeBreaks_solid hn hr]
  simp

theorem collapseInnerBreaks_break_solid (rest : List Char) :
    collapseInnerBreaks ('\n' :: x :: rest) = '\n' :: collapseInnerBreaks (x :: rest) := by
  rw [collapseInnerBreaks]
  simp [takeBreaks, takeBreaks_solid hn hr]

theorem takeBreaksBack_lineFeed_solid (rest : List Char) :
    takeBreaksBack ('\n' :: x :: rest) = (1, x :: rest) := by
  have hback : takeBreaksBack (x :: rest) = (0, x :: rest) := by
    unfold takeBreaksBack
    split <;> simp_all
  unfold takeBreaksBack
  split <;> simp_all

end Breaks

theorem collapseInnerBreaks_append_solid {l : List Char} (h : ∀ x ∈ l, x ≠ '\n' ∧ x ≠ '\r')
    (rest : List Char) : collapseInnerBreaks (l ++ rest) = l ++ collapseInnerBreaks rest := by
  induction l with
  | nil => rfl
  | cons x t ih =>
    obtain ⟨hn, hr⟩ := h x List.mem_cons_self
    rw [List.cons_append, collapseInnerBreaks_solid hn hr,
      ih fun y hy => h y (List.mem_cons_of_mem x hy), List.cons_append]

theorem collapseBlankLines_line {s : String} (hne : s ≠ "")
    (h : ∀ x ∈ s.toList, x ≠ '\n' ∧ x ≠ '\r') :
    collapseBlankLines ("\n" ++ s ++ "\n") = "\n" ++ s ++ "\n" := by
  obtain ⟨x, t, hxt⟩ := List.exists_cons_of_ne_nil (mt String.toList_eq_nil_iff.1 hne)
  obtain ⟨y, u, hyu⟩ := List.exists_cons_of_ne_nil
    (mt List.reverse_eq_nil_iff.1 (mt String.toList_eq_nil_iff.1 hne))
  have hx := h x (by rw [hxt]; exact List.mem_cons_self)
  have hy := h y (List.mem_reverse.1 (by rw [hyu]; exact List.mem_cons_self))
  have hcs : ("\n" ++ s ++ "\n").toList = '\n' :: (s.toList ++ ['\n']) := by
    simp [String.toList_append]
  -- one line feed at each end, and none in between
  have hfront : takeBreaks ('\n' :: (s.toList ++ ['\n'])) = (1, s.toList ++ ['\n']) := by
    rw [hxt, List.cons_append, takeBreaks, takeBreaks_solid hx.1 hx.2]
  have hback : takeBreaksBack ('\n' :: (s.toList ++ ['\n'])).reverse =
      (1, ('\n' :: s.toList).reverse) := by
    have hrev : ('\n' :: (s.toList ++ ['\n'])).reverse = '\n' :: y :: (u ++ ['\n']) := by
      simp [hyu]
    rw [hrev, takeBreaksBack_lineFeed_solid hy.1 hy.2]
    simp [hyu]
  have hinner : collapseInnerBreaks ('\n' :: (s.toList ++ ['\n'])) =
      '\n' :: (s.toList ++ ['\n']) := by
    rw [hxt, List.cons_append, collapseInnerBreaks_break_solid hx.1 hx.2, ← List.cons_append,
      ← hxt, collapseInnerBreaks_append_solid h,
      show collapseInnerBreaks ['\n'] = ['\n'] by simp [collapseInnerBreaks, takeBreaks]]
  unfold collapseBlankLines
  simp only [hcs, hfront, lt_self_iff_false, if_false, hback, hinner]
  rw [← hcs, String.ofList_toList]

theorem trimWhite_between_words {a b : String} (ha : a ≠ "") (hwa : ∀ x ∈ a.toList, x.isAlphanum)
    (hb : b ≠ "") (hwb : ∀ x ∈ b.toList, x.isAlphanum) (m : String) :
    trimWhite (a ++ (m ++ b) ++ "\n") = a ++ (m ++ b) := by
  have hhead : ∀ x ∈ (a ++ (m ++ b)).toList.head?, isWhite x = false := by
    obtain ⟨x, t, hxt⟩ := List.exists_cons_of_ne_nil (mt String.toList_eq_nil_iff.1 ha)
    intro y hy
    simp only [String.toList_append, hxt, List.cons_append, List.head?_cons, Option.mem_def,
      Option.some.injEq] at hy
    subst hy
    exact isWhite_of_isAlphanum (hwa x (by rw [hxt]; exact List.mem_cons_self))
  have hlast : ∀ x ∈ (a ++ (m ++ b)).toList.getLast?, isWhite x = false := by
    intro y hy
    rw [String.toList_append, String.toList_append, List.getLast?_append, List.getLast?_append,
      List.getLast?_eq_some_getLast (mt String.toList_eq_nil_iff.1 hb)] at hy
    simp only [Option.some_or, Option.mem_def, Option.some.injEq] at hy
    subst hy
    exact isWhite_of_isAlphanum (hwb _ (List.getLast_mem _))
  exact trimWhite_append_lineFeed hhead hlast (by simp [ha])

section ItemAfterWord

variable {a b : String} (ha : a ≠ "") (hwa : ∀ x ∈ a.toList, x.isAlphanum) (hb : b ≠ "")
  (hwb : ∀ x ∈ b.toList, x.isAlphanum)

include hwa hwb in
theorem normalizeTree_item_after_word :
    (⟨.element, "p", "", [], [.text a, ⟨.element, "li", "", [], [.text (" " ++ b)]⟩]⟩ :
      Node).normalizeTree = ⟨.element, "p", "", [], [.text a, ⟨.element, "li", "", [], [.text b]⟩]⟩ := by
  have hp : isBlockTag "p" = true := by rw [isBlockTag_ascii (by simp)]; decide
  have hl : isBlockTag "li" = true := by rw [isBlockTag_ascii (by simp)]; decide
  have hitem : (⟨.element, "li", "", [], [.text (" " ++ b)]⟩ : Node).normalizeWhitespace false =
      ⟨.element, "li", "", [], [.text b]⟩ := by
    rw [Node.normalizeWhitespace_eq_mk, Node.normalizeWhitespace_children]
    simp [Node.normalizeChild, Node.isBlockElement, Node.isElement, Node.isText, Node.text, hl,
      normalizeValue_space_solid (solid_of_word hwb)]
  rw [Node.normalizeTree, Node.normalizeWhitespace_eq_mk, Node.normalizeWhitespace_children]
  simp [Node.normalizeChild, Node.isBlockElement, Node.isElement, Node.isText, Node.isTag, Node.text,
    hp, hl, normalizeValue_of_solid (solid_of_word hwa)]
  exact hitem

include hb hwb in
theorem convertWith_listItem_word {c : Cursor} (hc : c.node = ⟨.element, "li", "", [], [.text b]⟩)
    (hp : c.PlainBlock) (hpar : c.parentTag? ≠ some "ol")
    (hlen : c.inset {} + 2 + b.toList.length ≤ lineLength) :
    Setting.standard.convertWith .listItem c = .ok ⟨"- ", b, "\n"⟩ := by
  have hmarker : listItemMarker {} c = "- " := by
    simp only [listItemMarker, hpar, if_false]
    rfl
  have hel : c.node.isElement = true := by rw [hc]; rfl
  have htag : c.tag = "li" := by simp [Cursor.tag, hc]
  have hpos : 0 < b.toList.length := List.length_pos_iff.2 (mt String.toList_eq_nil_iff.1 hb)
  have hlead : c.lead {} = 2 := by
    simp [Cursor.lead, Cursor.isTag_eq_tag hel, htag, markerWidth, hmarker]
    rfl
  have hlay : resolveLayout {} c = ⟨true, some (lineLength - (c.inset {} + 2))⟩ := by
    rw [hp.resolveLayout hel (by rw [htag]; decide), htag, hlead, if_pos (by omega)]
    rfl
  have hchildren : c.children = [⟨.text b, ⟨c.node, 0⟩ :: c.path⟩] := by
    simp [Cursor.children, hc]
  have hword : Setting.standard.convertWith .text ⟨.text b, ⟨c.node, 0⟩ :: c.path⟩ =
      .ok (.ofContent b) := by
    rw [Setting.convertWith_text, textMarkdown_word rfl rfl hb hwb]
  have hcontent : Setting.standard.formatChildren c (resolveLayout {} c) (chunkerFor {} c) =
      .ok b := by
    rw [Setting.formatChildren_eq, hchildren, chunkerFor_default]
    simp only [List.foldlM_cons, List.foldlM_nil,
      Setting.layoutStep_inline (Setting.ruleFor_of_get? rfl Registry.builtIn_get?_text) rfl hword,
      Fragment.render, Fragment.ofContent, String.empty_append, String.append_empty,
      bind, Except.bind, pure, Except.pure]
    rw [hlay, flushRun_fitting rfl "" (plainLine_of_word hwb) hb (by omega), String.empty_append]
    simp only [if_true, trimWhite_word hwb]
  rw [Setting.convertWith_listItem, Setting.standard_options, hcontent, hmarker]
  simp only [bind, Except.bind, pure, Except.pure, trimBlock, hlay, if_true, trimWhite_word hwb,
    hangingIndent_of_not_mem ((plainLine_of_word hwb).not_mem rfl (by decide))]

include hwa hwb in
theorem plainBlock_item_after_word :
    (Cursor.root ⟨.element, "p", "", [], [.text a, ⟨.element, "li", "", [], [.text b]⟩]⟩).PlainBlock ∧
    (⟨⟨.element, "li", "", [], [.text b]⟩, [⟨⟨.element, "p", "", [],
      [.text a, ⟨.element, "li", "", [], [.text b]⟩]⟩, 1⟩]⟩ : Cursor).PlainBlock := by
  have hpa := plainLine_of_word hwa
  have hpb := plainLine_of_word hwb
  -- texts of letters and digits open no shortcode
  have hroot : hasShortcodeOpen (Cursor.root ⟨.element, "p", "", [],
      [.text a, ⟨.element, "li", "", [], [.text b]⟩]⟩).innerText = false :=
    Cursor.hasShortcodeOpen_of_plain fun x hx => by
      simp [Node.textContent, Node.textContents, Node.text, Cursor.root] at hx
      rcases hx with hx | hx
      · exact hpa.chars x hx
      · exact hpb.chars x hx
  have hitem : hasShortcodeOpen (⟨⟨.element, "li", "", [], [.text b]⟩, [⟨⟨.element, "p", "", [],
      [.text a, ⟨.element, "li", "", [], [.text b]⟩]⟩, 1⟩]⟩ : Cursor).innerText = false :=
    Cursor.hasShortcodeOpen_of_plain fun x hx => hpb.chars x (by
      simpa [Node.textContent, Node.textContents, Node.text] using hx)
  refine ⟨⟨rfl, ?_, rfl, ?_, hroot⟩, ⟨?_, ?_, ?_, ?_, hitem⟩⟩
  all_goals simp [Cursor.hasAncestor, Cursor.hasDescendant, Node.hasDescendant,
    Node.findDescendant?, Node.findIn?, Node.isTag, Node.text, Cursor.root]

include ha hwa hb hwb in
theorem formatChildren_item_after_word (hla : a.toList.length ≤ lineLength)
    (hlb : b.toList.length + 2 ≤ lineLength) :
    Setting.standard.formatChildren
        (Cursor.root ⟨.element, "p", "", [], [.text a, ⟨.element, "li", "", [], [.text b]⟩]⟩)
        ⟨true, some lineLength⟩ .disabled =
      .ok (a ++ ("- " ++ b)) := by
  obtain ⟨-, hitemPlain⟩ := plainBlock_item_after_word hwa hwb
  have hstep1 : Setting.standard.layoutStep ⟨true, some lineLength⟩ .disabled ("", "")
      ⟨.text a, [⟨⟨.element, "p", "", [], [.text a, ⟨.element, "li", "", [], [.text b]⟩]⟩, 0⟩]⟩ =
      .ok ("", a) := by
    rw [Setting.layoutStep_inline (Setting.ruleFor_of_get? rfl Registry.builtIn_get?_text) rfl
      (by rw [Setting.convertWith_text, textMarkdown_word rfl rfl ha hwa]) "" ""]
    simp [Fragment.render, Fragment.ofContent]
  have hstep2 : Setting.standard.layoutStep ⟨true, some lineLength⟩ .disabled ("", a)
      ⟨⟨.element, "li", "", [], [.text b]⟩,
        [⟨⟨.element, "p", "", [], [.text a, ⟨.element, "li", "", [], [.text b]⟩]⟩, 1⟩]⟩ =
      .ok (a ++ ("- " ++ b) ++ "\n", "") := by
    rw [Setting.layoutStep_block (Setting.ruleFor_of_get? rfl
      (show Registry.builtIn.get? "li" = some .listItem by decide)) rfl
      hitemPlain.defersToContainer (convertWith_listItem_word hb hwb rfl hitemPlain
        (by simp [Cursor.parentTag?]) (by rw [show Cursor.inset _ _ = 0 by rfl]; omega))
      (flushRun_fitting rfl "" (plainLine_of_word hwa) ha hla)]
    simp [Fragment.render, String.append_assoc]
  rw [Setting.formatChildren_eq]
  simp only [Cursor.children, Cursor.root, List.zipIdx_cons, List.zipIdx_nil, List.map_cons,
    List.map_nil, Nat.zero_add, List.foldlM_cons, List.foldlM_nil, hstep1, hstep2, bind,
    Except.bind, pure, Except.pure, flushRun, show "".isEmpty = true from rfl, if_true]
  rw [trimWhite_between_words ha hwa hb hwb]

include ha hwa hb hwb in
theorem convert_paragraph_item_after_word (hla : a.toList.length ≤ lineLength)
    (hlb : b.toList.length + 2 ≤ lineLength) :
    Setting.standard.convert (Cursor.root
        ⟨.element, "p", "", [], [.text a, ⟨.element, "li", "", [], [.text b]⟩]⟩) =
      .ok ("\n" ++ (a ++ ("- " ++ b)) ++ "\n") := by
  obtain ⟨hrootPlain, -⟩ := plainBlock_item_after_word hwa hwb
  have hlay : resolveLayout {} (Cursor.root ⟨.element, "p", "", [], [.text a,
      ⟨.element, "li", "", [], [.text b]⟩]⟩) = ⟨true, some lineLength⟩ := by
    rw [hrootPlain.resolveLayout rfl (show "p" ∈ wrappableTags by decide), Cursor.inset_root]
    rfl
  refine Setting.convert_of_ok (r := .paragraph) (f := ⟨"\n", a ++ ("- " ++ b), "\n"⟩) ?_ ?_
  · exact Setting.ruleFor_of_get? rfl
      (by decide : Registry.builtIn.get? "p" = some .paragraph)
  rw [Setting.convertWith_paragraph _ (by simp [Cursor.parentTag?, Cursor.root])
    (by simp [Cursor.parentTag?, Cursor.root]), Setting.standard_options, hlay, chunkerFor_default,
    formatChildren_item_after_word ha hwa hb hwb hla hlb]
  rfl

include ha hwa hb hwb in
theorem convert_item_after_word (hla : a.toList.length ≤ lineLength)
    (hlb : b.toList.length + 2 ≤ lineLength) :
    (Service.withOptions {}).convert
        ⟨.element, "p", "", [], [.text a, ⟨.element, "li", "", [], [.text (" " ++ b)]⟩]⟩ =
      .ok ("\n" ++ (a ++ ("- " ++ b)) ++ "\n") := by
  have hlf : ∀ x ∈ (a ++ ("- " ++ b)).toList, x ≠ '\n' ∧ x ≠ '\r' := by
    intro x hx
    simp only [String.toList_append, List.mem_append] at hx
    rcases hx with hx | hx | hx
    · exact ⟨(plainLine_of_word hwa).not_mem rfl (by decide) ∘ (· ▸ hx),
        (plainLine_of_word hwa).not_mem rfl (by decide) ∘ (· ▸ hx)⟩
    · simp at hx
      rcases hx with rfl | rfl <;> decide
    · exact ⟨(plainLine_of_word hwb).not_mem rfl (by decide) ∘ (· ▸ hx),
        (plainLine_of_word hwb).not_mem rfl (by decide) ∘ (· ▸ hx)⟩
  rw [Service.convert_eq, if_pos (Nat.le_of_ble_eq_true rfl), Service.render]
  show (do let markdown ← Setting.standard.convert (Cursor.root _); pure _) = _
  rw [normalizeTree_item_after_word hwa hwb,
    convert_paragraph_item_after_word ha hwa hb hwb hla hlb]
  show Except.ok (collapseBlankLines _) = _
  rw [collapseBlankLines_line (by simp [ha]) hlf]

end ItemAfterWord

theorem WordsWithin.append_blank {B : Nat} {u v : List Char} (hu : WordsWithin B u)
    (hv : WordsWithin B v) {x : Char} (hx : isMarkupBlank x = true) :
    WordsWithin B (u ++ x :: v) := by
  intro w hw hsolid
  have hxw : x ∉ w := fun hm => by simp [hsolid x hm] at hx
  -- a word without the blank lies on one side of it
  rcases List.infix_append_iff.1 hw with h | h | ⟨l₁, l₂, rfl, h₁, h₂⟩
  · exact hu w h hsolid
  · rcases List.infix_cons_iff.1 h with h | h
    · cases w with
      | nil => exact Nat.zero_le _
      | cons y w => exact absurd ((List.cons_prefix_cons.1 h).1 ▸ List.mem_cons_self) hxw
    · exact hv w h hsolid
  · cases l₂ with
    | nil =>
      rw [List.append_nil] at hsolid ⊢
      exact hu l₁ h₁.isInfix hsolid
    | cons y l₂ =>
      exact absurd ((List.cons_prefix_cons.1 h₂).1 ▸ List.mem_append_right l₁ List.mem_cons_self) hxw

theorem convert_item_after_word_overflows :
    WordsWithin lineLength (Node.textContent ⟨.element, "p", "", [],
      [.text (String.ofList (List.replicate 50 'a')), ⟨.element, "li", "", [],
        [.text (" " ++ String.ofList (List.replicate 50 'b'))]⟩]⟩).toList ∧
    WordsWithin (lineLength - 2) (Node.textContent ⟨.element, "li", "", [],
      [.text (" " ++ String.ofList (List.replicate 50 'b'))]⟩).toList ∧
    (Service.withOptions {}).convert ⟨.element, "p", "", [],
        [.text (String.ofList (List.replicate 50 'a')), ⟨.element, "li", "", [],
          [.text (" " ++ String.ofList (List.replicate 50 'b'))]⟩]⟩ =
      .ok ("\n" ++ (String.ofList (List.replicate 50 'a') ++
        ("- " ++ String.ofList (List.replicate 50 'b'))) ++ "\n") ∧
    lineLength < lineWidth (String.ofList (List.replicate 50 'a') ++
      ("- " ++ String.ofList (List.replicate 50 'b'))).toList := by
  have hwa : ∀ x ∈ (String.ofList (List.replicate 50 'a')).toList, x.isAlphanum := by
    simp
  have hwb : ∀ x ∈ (String.ofList (List.replicate 50 'b')).toList, x.isAlphanum := by
    simp
  refine ⟨?_, ?_, convert_item_after_word (by simp) hwa (by simp) hwb (by simp [lineLength])
    (by simp [lineLength]), ?_⟩
  · -- the paragraph's text is the letters, a blank and the item's letters
    have h : WordsWithin lineLength ((String.ofList (List.replicate 50 'a')).toList ++
        ' ' :: (String.ofList (List.replicate 50 'b')).toList) :=
      WordsWithin.append_blank (wordsWithin_of_length_le (by simp [lineLength]))
        (wordsWithin_of_length_le (by simp [lineLength])) rfl
    simpa [Node.textContent, Node.textContents, Node.text, String.toList_append] using h
  · exact wordsWithin_of_length_le (by simp [Node.textContent, Node.textContents, Node.text,
      lineLength])
  · rw [lineWidth, String.toList_append, String.toList_append, ← List.append_assoc,
      dropEndBy_append_of_solid ⟨'b', by simp, by decide⟩,
      dropEndBy_space_of_solid (solid_of_word hwb)]
    simp [lineLength]

end HtmlMarkdown
