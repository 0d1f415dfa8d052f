import HtmlMarkdown.Proofs.Outline
import HtmlMarkdown.Proofs.DepthGuard

namespace HtmlMarkdown

def Setting.standard : Setting := ⟨{}, Registry.builtIn⟩

@[simp] theorem Setting.standard_options : Setting.standard.options = {} := rfl

theorem normalizeValue_blank {v : String} (hv : ∀ x ∈ v.toList, isMarkupBlank x = true)
    {trimStart trimEnd : Bool} (h : (trimStart || trimEnd) = true) :
    normalizeValue v trimStart trimEnd = "" := by
  -- the blanks collapse to spaces, which either trim takes away
  have hsp : ∀ x ∈ collapseBlanks false v.toList, (x == ' ') = true := by
    intro x hx
    rcases mem_collapseBlanks hx with ⟨hm, hb⟩ | h
    · simp [hv x hm] at hb
    · simp [h]
  have hend : dropEndBy (· == ' ') (collapseBlanks false v.toList) = [] := by
    rw [dropEndBy, List.reverse_eq_nil_iff, List.dropWhile_eq_nil_iff]
    exact fun x hx => hsp x (List.mem_reverse.1 hx)
  cases trimStart with
  | true =>
    simp only [normalizeValue, if_true, List.dropWhile_eq_nil_iff.2 hsp]
    cases trimEnd <;> rfl
  | false =>
    simp only [Bool.false_or] at h
    simp only [normalizeValue, h, if_true, Bool.false_eq_true, if_false, hend]

theorem normalizeValue_of_blank {v : String} (hv : ∀ x ∈ v.toList, isMarkupBlank x = true) :
    normalizeValue v true true = "" :=
  normalizeValue_blank hv rfl

@[simp] theorem Node.trimTexts_text (v : String) :
    (Node.text v).trimTexts = .text (normalizeValue v true true) := by
  rw [trimTexts_eq]
  rfl

theorem textMarkdown_trimTexts {o : Options} (ho : o.escapeRules = defaultEscapeRules)
    {d : Cursor} {v : String} (hd : d.node = .text v)
    (hv : ∀ x ∈ v.toList, x.isAlphanum ∨ isMarkupBlank x) :
    textMarkdown o d.trimTexts = normalizeValue v true true := by
  have hnode : d.trimTexts.node = .text (normalizeValue v true true) := by
    rw [Cursor.trimTexts_node, hd, Node.trimTexts_text]
  unfold textMarkdown
  rw [hnode]
  split
  · next hblank =>
    -- a blank text trims to nothing, which is what it converts to
    have hb : ∀ x ∈ v.toList, isMarkupBlank x = true := by
      rw [← Node.trimTexts_text, Node.isBlankText_trimTexts] at hblank
      simpa [Node.isBlankText, Node.text, Node.isText] using hblank
    rw [normalizeValue_of_blank hb]
    split <;> (try split) <;> decide
  · have hplain := (plainLine_normalizeValue hv).chars
    rw [ho]
    exact (congrArg (escape defaultEscapeRules) (decodeText_plain hplain)).trans (escape_plain hplain)

theorem Setting.ruleFor_of_get? {s : Setting} (hs : s.options.passThroughTags = []) {c : Cursor}
    {r : Rule} (h : s.registry.get? c.tag = some r) : s.ruleFor c = .ok r := by
  simp [Setting.ruleFor, Options.isPassThrough, hs, h]

/-- A node read as plain wrapped content: no preformatted content, table or shortcode around it. -/
structure Cursor.PlainBlock (c : Cursor) : Prop where
  preAbove : c.hasAncestor "pre" = false
  preBelow : c.hasDescendant "pre" = false
  tableAbove : c.hasAncestor "table" = false
  tableBelow : c.hasDescendant "table" = false
  shortcode : hasShortcodeOpen c.innerText = false

namespace Cursor

variable {o : Options} {c : Cursor}

theorem PlainBlock.resolveLayout (hp : c.PlainBlock) (hel : c.node.isElement = true)
    (htag : c.tag ∈ wrappableTags) :
    resolveLayout o c = ⟨c.tag != "div", if c.inset o + c.lead o < lineLength then
      some (lineLength - (c.inset o + c.lead o)) else none⟩ := by
  have hpre : (c.tag == "pre") = false := by
    simp only [wrappableTags, List.mem_cons, List.not_mem_nil, or_false] at htag
    rcases htag with h | h | h | h <;> rw [h] <;> decide
  have hwrap : wrappableTags.contains c.tag = true := List.elem_eq_true_of_mem htag
  have htagEq : ∀ t, c.isTag t = (c.tag == t) := by simp [isTag, Node.isTag, tag, hel]
  unfold HtmlMarkdown.resolveLayout
  simp only [hpre, hp.preAbove, hp.preBelow, hp.tableBelow, hp.shortcode, hp.tableAbove, hwrap,
    Bool.false_or, Bool.true_and, Bool.false_and, Bool.false_eq_true, if_false, if_true]
  rw [inset_eq, lead, htagEq, htagEq, ← List.sum_eq_foldl_nat]
  -- the columns the layout counts are those around the node and its own, in another order
  generalize c.countAncestors "blockquote" = k
  generalize ((c.ancestors.filter (·.isTag "li")).map (markerWidth o)).sum = S
  generalize markerWidth o c = m
  generalize (c.tag == "blockquote") = q
  generalize (c.tag == "li") = l
  have hused : 2 * (k + if q = true then 1 else 0) + ((if l = true then m else 0) + S) =
      2 * k + S + ((if q = true then 2 else 0) + if l = true then m else 0) := by
    cases q <;> cases l <;> simp only [Bool.false_eq_true, if_false, if_true] <;> omega
  rw [hused]

theorem PlainBlock.defersToContainer (hp : c.PlainBlock) :
    HtmlMarkdown.defersToContainer c = false := by
  simp [HtmlMarkdown.defersToContainer, hp.shortcode]

end Cursor

theorem chunkerFor_default (c : Cursor) : chunkerFor {} c = .disabled := rfl

theorem findSeq?_cons_eq_none {p : Char} {ps cs : List Char} (h : p ∉ cs) :
    findSeq? (p :: ps) cs = none := by
  induction cs with
  | nil => rfl
  | cons c cs ih =>
    have hc : p ≠ c := fun e => h (e ▸ List.mem_cons_self)
    simp [findSeq?, List.isPrefixOf, hc, ih fun hm => h (List.mem_cons_of_mem c hm)]

theorem isWhite_of_isAlphanum {x : Char} (hx : x.isAlphanum = true) : isWhite x = false := by
  simp only [Char.isAlphanum, Char.isAlpha, Char.isUpper, Char.isLower, Char.isDigit,
    Bool.or_eq_true, Bool.and_eq_true, decide_eq_true_eq, UInt32.le_iff_toNat_le,
    Char.toNat_val] at hx
  simp only [isWhite, Bool.or_eq_false_iff, Bool.and_eq_false_iff, decide_eq_false_iff_not,
    beq_eq_false_iff_ne, ne_eq, UInt32.le_iff_toNat_le, ← UInt32.toNat_inj, Char.toNat_val,
    UInt32.reduceToNat, Char.reduceToNat] at hx ⊢
  omega

namespace PlainLine

variable {cs : List Char}

theorem nil : PlainLine [] := ⟨by simp, by simp, by simp⟩

theorem dropWhite_eq (h : PlainLine cs) : dropWhite cs = cs := by
  cases cs with
  | nil => rfl
  | cons x t =>
    have hx : x.isAlphanum = true :=
      (h.chars x List.mem_cons_self).resolve_right fun e => h.head (by rw [e]; rfl)
    rw [dropWhite, List.dropWhile_cons_of_neg (by simp [isWhite_of_isAlphanum hx])]

theorem eq_nil_of_wordsWithin_zero (h : PlainLine cs) (hw : WordsWithin 0 cs) : cs = [] := by
  cases cs with
  | nil => rfl
  | cons x t =>
    have hx : x.isAlphanum = true :=
      (h.chars x List.mem_cons_self).resolve_right fun e => h.head (by rw [e]; rfl)
    have := hw [x] (List.cons_prefix_cons.2 ⟨rfl, List.nil_prefix⟩).isInfix
      (by simpa using isMarkupBlank_of_isAlphanum hx)
    simp at this

end PlainLine

theorem wordsWithin_nil (W : Nat) : WordsWithin W [] := fun w hw _ => by
  rw [List.eq_nil_of_infix_nil hw]
  exact Nat.zero_le _

theorem wordsWithin_of_length_le {W : Nat} {cs : List Char} (h : cs.length ≤ W) :
    WordsWithin W cs :=
  fun _ hw _ => hw.length_le.trans h

namespace Cursor

variable {o : Options} {c d : Cursor}

theorem Outlined.plainLine_trimTexts (ho : d.Outlined o) (ht : d.node.isText = true) :
    PlainLine d.trimTexts.node.value.toList := by
  rcases ho.node with ⟨v, hv, hchars⟩ | ⟨hel, -⟩
  · rw [trimTexts_node, hv, Node.trimTexts_text]
    exact plainLine_normalizeValue hchars
  · simp [Node.isElement, Node.isText] at hel ht
    rw [hel] at ht
    cases ht

theorem Throughout.textContent_trimTexts (h : c.Throughout (Outlined o)) :
    ∀ x ∈ c.trimTexts.node.textContent.toList, x.isAlphanum ∨ x = ' ' := by
  refine h.trimTexts.mem_textContent fun d' ⟨d, hd, hd'⟩ ht x hx => ?_
  subst hd'
  rw [trimTexts_node, Node.isText_trimTexts] at ht
  exact (hd.plainLine_trimTexts ht).chars x hx

theorem hasShortcodeOpen_of_plain (h : ∀ x ∈ c.node.textContent.toList, x.isAlphanum ∨ x = ' ') :
    hasShortcodeOpen c.innerText = false := by
  have hamp : '&' ∉ c.node.textContent.toList := fun hm => by
    rcases h _ hm with h | h <;> simp at h
  have hbrace : '{' ∉ c.node.textContent.toList := fun hm => by
    rcases h _ hm with h | h <;> simp at h
  rw [hasShortcodeOpen, innerText, Node.innerText, decodeEntities, String.toList_ofList,
    decodeReferences_of_not_mem hamp, findSeq?_cons_eq_none hbrace, Option.isSome_none]

theorem InOutline.plainBlock (hc : c.InOutline) (h : c.Throughout (Outlined o)) :
    c.trimTexts.PlainBlock where
  preAbove := by
    rw [hasAncestor_trimTexts]
    exact hc.hasAncestor_eq_false (by simp [outlineTags])
  preBelow := by
    rw [hasDescendant_trimTexts]
    exact h.hasDescendant_eq_false fun d hd => hd.isTag_eq_false (by simp [outlineTags])
  tableAbove := by
    rw [hasAncestor_trimTexts]
    exact hc.hasAncestor_eq_false (by simp [outlineTags])
  tableBelow := by
    rw [hasDescendant_trimTexts]
    exact h.hasDescendant_eq_false fun d hd => hd.isTag_eq_false (by simp [outlineTags])
  shortcode := hasShortcodeOpen_of_plain h.textContent_trimTexts

end Cursor

theorem flushRun_plain {layout : Layout} {W : Nat}
    (hw : layout.width = some W ∨ layout.width = none ∧ W = 0) (content : String) {run : String}
    (hrun : PlainLine run.toList) (hwords : WordsWithin W run.toList) :
    ∃ w, flushRun layout .disabled content run = .ok (content ++ w) ∧ Fits W w.toList ∧
      (run = "" → w = "") := by
  unfold flushRun
  by_cases he : run.isEmpty = true
  · exact ⟨"", by simp [he], fits_nil, fun _ => rfl⟩
  have hne : run ≠ "" := fun e => by simp [e] at he
  have htext : (if layout.canTrim && isWhiteText content then trimWhiteStart run else run) = run := by
    split
    · rw [trimWhiteStart, hrun.dropWhite_eq, String.ofList_toList]
    · rfl
  simp only [he, Bool.false_eq_true, if_false, htext]
  rcases hw with hs | ⟨hn, rfl⟩
  · obtain ⟨out, hout, hfit⟩ := fits_wrapText_plain hrun hwords
    rw [String.ofList_toList] at hout
    exact ⟨out, by simp [Layout.wrap, hs, hout], hfit, fun h => absurd h hne⟩
  · exact absurd (String.toList_eq_nil_iff.1 (hrun.eq_nil_of_wordsWithin_zero hwords)) hne

def SetOff (cs : List Char) : Prop := cs.head? = some '\n' ∧ cs.getLast? = some '\n'

def Setting.layoutStep (s : Setting) (layout : Layout) (mode : ShortcodeMode)
    (acc : String × String) (d : Cursor) : Except ConvertError (String × String) := do
  let rule ← s.ruleFor d
  let converted := (← s.convertWith rule d).render
  if rule.isBlock && !defersToContainer d then
    pure ((← flushRun layout mode acc.1 acc.2) ++ converted, "")
  else pure (acc.1, acc.2 ++ converted)

theorem Setting.formatChildren_eq (s : Setting) (c : Cursor) (layout : Layout)
    (mode : ShortcodeMode) :
    s.formatChildren c layout mode = (do
      let acc ← c.children.foldlM (s.layoutStep layout mode) ("", "")
      let content ← flushRun layout mode acc.1 acc.2
      pure (if layout.canTrim then trimWhite content else content)) := by
  rw [Setting.formatChildren]
  conv_rhs => rw [← List.attach_map_subtype_val c.children, List.foldlM_map]
  rfl

theorem Setting.layoutStep_inline {s : Setting} {layout : Layout} {mode : ShortcodeMode}
    {d : Cursor} {r : Rule} {f : Fragment} (hr : s.ruleFor d = .ok r) (hb : r.isBlock = false)
    (hf : s.convertWith r d = .ok f) (content run : String) :
    s.layoutStep layout mode (content, run) d = .ok (content, run ++ f.render) := by
  simp [Setting.layoutStep, hr, hf, hb, bind, Except.bind, pure, Except.pure]

theorem Setting.layoutStep_block {s : Setting} {layout : Layout} {mode : ShortcodeMode}
    {d : Cursor} {r : Rule} {f : Fragment} (hr : s.ruleFor d = .ok r) (hb : r.isBlock = true)
    (hdefer : defersToContainer d = false) (hf : s.convertWith r d = .ok f)
    {content run w : String} (hflush : flushRun layout mode content run = .ok w) :
    s.layoutStep layout mode (content, run) d = .ok (w ++ f.render, "") := by
  simp [Setting.layoutStep, hr, hf, hb, hdefer, hflush, bind, Except.bind, pure, Except.pure]

/-- What laying out a child of a block in `W` columns needs of it. -/
inductive LaysOut (s : Setting) (W : Nat) (quiet : Prop) (d : Cursor) : Prop
  | run (r : Rule) (f : Fragment) : d.node.isText = true → s.ruleFor d = .ok r → r.isBlock = false →
      s.convertWith r d = .ok f → PlainLine f.render.toList → WordsWithin W f.render.toList →
      (quiet → f.render = "") → LaysOut s W quiet d
  | block (r : Rule) (f : Fragment) : d.node.isText = false → s.ruleFor d = .ok r →
      r.isBlock = true → defersToContainer d = false → s.convertWith r d = .ok f →
      Fits W f.render.toList → SetOff f.render.toList → LaysOut s W quiet d

/-- Children laid out part way: the content fits and ends a line, and the pending run is plain. -/
structure LayoutState (W : Nat) (quiet : Prop) (rest : List Cursor) (content run : String) :
    Prop where
  fits : Fits W content.toList
  ends : content = "" ∨ content.toList.getLast? = some '\n'
  plain : PlainLine run.toList
  words : WordsWithin W run.toList
  next : run ≠ "" → ∀ d ∈ rest.head?, d.node.isText = false
  quiet : quiet → run = "" ∧ (content = "" → ∃ d ∈ rest, d.node.isText = false) ∧
    (content = "" ∨ content.toList.head? = some '\n')

section Layout

variable {s : Setting} {layout : Layout} {W : Nat} {quiet : Prop}

theorem LayoutState.start (rest : List Cursor)
    (hq : quiet → ∃ d ∈ rest, d.node.isText = false) : LayoutState W quiet rest "" "" :=
  ⟨fits_nil, .inl rfl, PlainLine.nil, wordsWithin_nil W, fun h => absurd rfl h,
    fun q => ⟨rfl, fun _ => hq q, .inl rfl⟩⟩

/-- One child laid out keeps the state. -/
theorem LayoutState.step (hw : layout.width = some W ∨ layout.width = none ∧ W = 0) {d : Cursor}
    {rest : List Cursor} {content run : String} (hst : LayoutState W quiet (d :: rest) content run)
    (hd : LaysOut s W quiet d) (hnext : ∀ e ∈ rest.head?, ¬(d.node.isText ∧ e.node.isText)) :
    ∃ content' run', s.layoutStep layout .disabled (content, run) d = .ok (content', run') ∧
      LayoutState W quiet rest content' run' := by
  cases hd with
  | run r f ht hr hblock hf hplain hwords hq =>
    -- a text comes only after a block or first, so no run is pending
    have hrun : run = "" := by
      by_contra hne
      have := hst.next hne d rfl
      rw [ht] at this
      cases this
    subst hrun
    refine ⟨content, f.render, Setting.layoutStep_inline hr hblock hf content "",
      ⟨hst.fits, hst.ends, hplain, hwords, fun _ e he => ?_, fun q => ?_⟩⟩
    · have := hnext e he
      simpa [ht] using this
    · obtain ⟨-, hblk, hhead⟩ := hst.quiet q
      refine ⟨hq q, fun he => ?_, hhead⟩
      obtain ⟨e, hmem, he'⟩ := hblk he
      rcases List.mem_cons.1 hmem with rfl | hmem
      · rw [ht] at he'
        cases he'
      · exact ⟨e, hmem, he'⟩
  | block r f ht hr hblock hdefer hf hfits hset =>
    obtain ⟨w, hflush, hwfit, hwnil⟩ := flushRun_plain hw content hst.plain hst.words
    refine ⟨content ++ w ++ f.render, "", Setting.layoutStep_block hr hblock hdefer hf hflush,
      ⟨?_, ?_, PlainLine.nil, wordsWithin_nil W,
      fun h => absurd rfl h, fun q => ?_⟩⟩
    · rw [String.toList_append, String.toList_append]
      refine (hst.fits.append hwfit ?_).append hfits (.inr (.inr hset.1))
      rcases hst.ends with h | h
      · exact .inl (by simp [h])
      · exact .inr (.inl h)
    · exact .inr (by simp [List.getLast?_append, hset.2])
    · obtain ⟨hrun, -, hhead⟩ := hst.quiet q
      rw [hwnil hrun, String.append_empty]
      have hne : f.render ≠ "" := fun e => by simp [e, SetOff] at hset
      refine ⟨rfl, fun he => absurd (String.append_eq_empty_iff.1 he).2 hne, .inr ?_⟩
      rcases hhead with rfl | h
      · simpa using hset.1
      · rw [String.toList_append, List.head?_append, h]
        rfl

theorem LayoutState.foldlM (hw : layout.width = some W ∨ layout.width = none ∧ W = 0) :
    ∀ (ds : List Cursor) (content run : String), LayoutState W quiet ds content run →
      (∀ d ∈ ds, LaysOut s W quiet d) → ds.IsChain (fun a b => ¬(a.node.isText ∧ b.node.isText)) →
      ∃ content' run', ds.foldlM (s.layoutStep layout .disabled) (content, run) =
        .ok (content', run') ∧ LayoutState W quiet [] content' run'
  | [], content, run, hst, _, _ => ⟨content, run, rfl, hst⟩
  | d :: rest, content, run, hst, hds, hchain => by
    obtain ⟨hnext, hrest⟩ := List.isChain_cons.1 hchain
    obtain ⟨content', run', hstep, hst'⟩ :=
      hst.step hw (hds d List.mem_cons_self) hnext
    obtain ⟨content'', run'', hfold, hst''⟩ := LayoutState.foldlM hw rest content' run' hst'
      (fun e he => hds e (List.mem_cons_of_mem d he)) hrest
    exact ⟨content'', run'', by rw [List.foldlM_cons, hstep]; exact hfold, hst''⟩

theorem Setting.formatChildren_fits (hw : layout.width = some W ∨ layout.width = none ∧ W = 0)
    {c : Cursor} (hkids : ∀ d ∈ c.children, LaysOut s W quiet d)
    (hchain : c.children.IsChain fun a b => ¬(a.node.isText ∧ b.node.isText))
    (hq : quiet → ∃ d ∈ c.children, d.node.isText = false) :
    ∃ content, s.formatChildren c layout .disabled =
        .ok (if layout.canTrim then trimWhite content else content) ∧
      Fits W content.toList ∧ (quiet → SetOff content.toList) := by
  obtain ⟨content, run, hfold, hst⟩ :=
    LayoutState.foldlM hw c.children "" "" (.start c.children hq) hkids hchain
  obtain ⟨w, hflush, hwfit, hwnil⟩ := flushRun_plain hw content hst.plain hst.words
  refine ⟨content ++ w, by simp [Setting.formatChildren_eq, hfold, hflush, bind, Except.bind,
    pure, Except.pure], ?_, fun q => ?_⟩
  · rw [String.toList_append]
    refine hst.fits.append hwfit ?_
    rcases hst.ends with h | h
    · exact .inl (by simp [h])
    · exact .inr (.inl h)
  · obtain ⟨hrun, hblk, hhead⟩ := hst.quiet q
    rw [hwnil hrun, String.append_empty]
    have hne : content ≠ "" := fun he => by simpa using hblk he
    exact ⟨hhead.resolve_left hne, hst.ends.resolve_left hne⟩

end Layout

theorem Setting.convertChildren_eq (s : Setting) (c : Cursor) :
    s.convertChildren c = c.children.foldlM (fun acc d => do pure (acc ++ (← s.convert d))) "" := by
  rw [Setting.convertChildren]
  conv_rhs => rw [← List.attach_map_subtype_val c.children, List.foldlM_map]

theorem Setting.convertChildren_fits {s : Setting} {c : Cursor} {W : Nat}
    (h : ∀ d ∈ c.children, ∃ out, s.convert d = .ok out ∧ Fits W out.toList ∧
      (out = "" ∨ out.toList.getLast? = some '\n')) :
    ∃ out, s.convertChildren c = .ok out ∧ Fits W out.toList ∧
      (out = "" ∨ out.toList.getLast? = some '\n') := by
  rw [Setting.convertChildren_eq]
  -- the accumulated text keeps fitting and ending a line, child after child
  suffices hfold : ∀ (ds : List Cursor) (acc : String), (∀ d ∈ ds, ∃ out, s.convert d = .ok out ∧
      Fits W out.toList ∧ (out = "" ∨ out.toList.getLast? = some '\n')) → Fits W acc.toList →
      (acc = "" ∨ acc.toList.getLast? = some '\n') →
      ∃ out, ds.foldlM (fun acc d => do pure (acc ++ (← s.convert d))) acc = .ok out ∧
        Fits W out.toList ∧ (out = "" ∨ out.toList.getLast? = some '\n') from
    hfold c.children "" h fits_nil (.inl rfl)
  intro ds
  induction ds with
  | nil => exact fun acc _ hfit hend => ⟨acc, rfl, hfit, hend⟩
  | cons d ds ih =>
    intro acc hds hfit hend
    obtain ⟨out, hout, hofit, hoend⟩ := hds d List.mem_cons_self
    have hfit' : Fits W (acc ++ out).toList := by
      rw [String.toList_append]
      refine hfit.append hofit ?_
      rcases hend with h | h
      · exact .inl (by simp [h])
      · exact .inr (.inl h)
    have hend' : acc ++ out = "" ∨ (acc ++ out).toList.getLast? = some '\n' := by
      rcases hoend with rfl | h
      · simpa using hend
      · exact .inr (by simp [List.getLast?_append, h])
    obtain ⟨res, hres, hrfit, hrend⟩ :=
      ih (acc ++ out) (fun e he => hds e (List.mem_cons_of_mem d he)) hfit' hend'
    refine ⟨res, ?_, hrfit, hrend⟩
    rw [List.foldlM_cons, hout]
    exact hres

theorem toList_lineFeed : "\n".toList = ['\n'] := rfl

theorem fits_between_breaks {w : Nat} {x : String} (h : Fits w x.toList) :
    Fits w ("\n" ++ x ++ "\n").toList ∧ SetOff ("\n" ++ x ++ "\n").toList := by
  simp only [String.toList_append, toList_lineFeed]
  exact ⟨(fits_break.append h (.inr (.inl rfl))).append fits_break (.inr (.inr rfl)),
    rfl, by rw [List.getLast?_append]; rfl⟩

theorem layoutWidth_cases (n : Nat) :
    (if n < lineLength then some (lineLength - n) else none) = some (lineLength - n) ∨
      (if n < lineLength then some (lineLength - n) else none) = none ∧ lineLength - n = 0 := by
  split
  · exact .inl rfl
  · exact .inr ⟨rfl, by omega⟩

theorem Setting.convert_of_ok {s : Setting} {c : Cursor} {r : Rule} {f : Fragment}
    (hr : s.ruleFor c = .ok r) (hf : s.convertWith r c = .ok f) : s.convert c = .ok f.render := by
  rw [Setting.convert]
  simp [hr, hf, bind, Except.bind, pure, Except.pure]

/-- A block of an outline converted to lines that fit `W`, set off by line feeds. -/
structure ConvertsFitting (s : Setting) (W : Nat) (c : Cursor) (r : Rule) (f : Fragment) :
    Prop where
  rule : s.ruleFor c = .ok r
  block : r.isBlock = true
  converts : s.convertWith r c = .ok f
  fits : Fits W f.render.toList
  ends : f.render.toList.getLast? = some '\n'
  setOff : c.isTag "li" = false → SetOff f.render.toList

theorem Node.textContent_isInfix {n m : Node} (hm : m ∈ n.children) (hn : n.isElement = true) :
    m.textContent.toList <:+: n.textContent.toList := by
  obtain ⟨k, nm, v, a, cs⟩ := n
  have hk : k = .element := by simpa [isElement] using hn
  subst hk
  clear hn
  show m.textContent.toList <:+: (textContents cs).toList
  induction cs with
  | nil => simp at hm
  | cons x xs ih =>
    rw [textContents, String.toList_append]
    rcases List.mem_cons.1 hm with rfl | hm
    · exact (List.prefix_append _ _).isInfix
    · exact (ih hm).trans (List.suffix_append _ _).isInfix

theorem Node.isText_of_isElement {n : Node} (h : n.isElement = true) : n.isText = false := by
  simp only [isElement, beq_iff_eq] at h
  simp [isText, h]

theorem Setting.convertWith_text (s : Setting) (c : Cursor) :
    s.convertWith .text c = .ok (.ofContent (textMarkdown s.options c)) := by
  rw [Setting.convertWith.eq_def]
  rfl

theorem Setting.convertWith_paragraph (s : Setting) {c : Cursor} (hol : c.parentTag? ≠ some "ol")
    (hul : c.parentTag? ≠ some "ul") :
    s.convertWith .paragraph c = (do
      let content ← s.formatChildren c (resolveLayout s.options c) (chunkerFor s.options c)
      pure ⟨cellPrefix c, content, cellSuffix c⟩) := by
  rw [Setting.convertWith.eq_def]
  split <;> simp_all

theorem Setting.convertWith_blockquote (s : Setting) (c : Cursor) :
    s.convertWith .blockquote c = (do
      let content ← s.formatChildren c (resolveLayout s.options c) (chunkerFor s.options c)
      pure ⟨"\n\n", quoteLines (trimBlock s.options c content), "\n\n"⟩) := by
  rw [Setting.convertWith.eq_def]

theorem Setting.convertWith_listItem (s : Setting) (c : Cursor) :
    s.convertWith .listItem c = (do
      let content ← s.formatChildren c (resolveLayout s.options c) (chunkerFor s.options c)
      pure ⟨listItemMarker s.options c, hangingIndent (listItemMarker s.options c).length
        (trimBlock s.options c content), "\n"⟩) := by
  rw [Setting.convertWith.eq_def]

theorem Setting.convertWith_list (s : Setting) {c : Cursor} (ht : c.hasAncestor "table" = false)
    (hol : c.parentTag? ≠ some "ol") (hul : c.parentTag? ≠ some "ul") :
    s.convertWith .list c = (do
      let out ← s.convertChildren c
      pure ⟨"\n", out, "\n"⟩) := by
  rw [Setting.convertWith.eq_def]
  simp [ht, hol, hul]

theorem Setting.convertWith_div (s : Setting) (c : Cursor) :
    s.convertWith .div c = (do
      let content ← s.divContent c (resolveLayout s.options c) (chunkerFor s.options c)
      match c.node.contentChildren with
      | [only] =>
        if ["p", "pre", "ol", "table"].any only.isTag then pure (.ofContent content)
        else pure ⟨cellPrefix c, content, cellSuffix c⟩
      | _ => pure ⟨cellPrefix c, content, cellSuffix c⟩) :=
  (Setting.convertWith.eq_def s .div c).trans rfl

theorem Registry.builtIn_get?_text : Registry.builtIn.get? "#text" = some .text := by decide

namespace Cursor

variable {c d : Cursor}

theorem ruleFor_trimTexts_text {v : String} (hv : d.node = .text v) :
    Setting.standard.ruleFor d.trimTexts = .ok .text := by
  refine Setting.ruleFor_of_get? rfl ?_
  rw [tag_trimTexts, tag, hv]
  exact Registry.builtIn_get?_text

theorem Throughout.laysOut_of_mem (h : c.Throughout (Outlined {})) (hc : c.InOutline)
    (hd : d ∈ c.children) {quiet : Prop} (hq : quiet → d.node.isText → d.node.isBlankText)
    (hli : d.isTag "li" = false)
    (hblock : d.node.isElement = true →
      ∃ r f, ConvertsFitting Setting.standard (lineLength - d.inset {}) d.trimTexts r f) :
    LaysOut Setting.standard (lineLength - d.inset {}) quiet d.trimTexts := by
  have ho := (h.of_mem_children hd).self
  rcases ho.node with ⟨v, hv, hchars⟩ | ⟨hel, -⟩
  · -- a text converts to its trimmed value, a plain line whose words fit
    have ht : d.node.isText = true := by simp [hv, Node.text, Node.isText]
    have hrule := ruleFor_trimTexts_text hv
    have hmd := textMarkdown_trimTexts (o := {}) rfl hv hchars
    refine .run .text (.ofContent (textMarkdown {} d.trimTexts)) (by simp [ht]) hrule rfl
      (Setting.convertWith_text _ _) ?_
      ?_ ?_ <;> simp only [Fragment.render, Fragment.ofContent, String.empty_append,
        String.append_empty, hmd]
    · exact plainLine_normalizeValue hchars
    · by_cases hb : d.node.isBlankText = true
      · have hb' : ∀ x ∈ v.toList, isMarkupBlank x = true := by
          simpa [hv, Node.isBlankText, Node.text, Node.isText] using hb
        rw [normalizeValue_of_blank hb']
        exact wordsWithin_nil _
      · obtain ⟨a, ha, hwords⟩ := ho.words ht (by simpa using hb)
        rw [parent?_of_mem_children hd, Option.mem_def, Option.some.injEq] at ha
        subst ha
        obtain ⟨i, hi, -⟩ := mem_children.1 hd
        have hin := Node.textContent_isInfix (List.mem_of_getElem? hi)
          (h.self.of_mem_children hd).1
        rw [hv] at hin
        exact wordsWithin_normalizeValue (hwords.of_isInfix hin) true true
    · intro q
      have hb : ∀ x ∈ v.toList, isMarkupBlank x = true := by
        simpa [hv, Node.isBlankText, Node.text, Node.isText] using hq q ht
      exact normalizeValue_of_blank hb
  · -- a block converts, fitting, and is never left to its container
    obtain ⟨r, f, hf⟩ := hblock hel
    have hp := (hc.of_mem_children h.self hd).plainBlock (h.of_mem_children hd)
    refine .block r f (by simpa using Node.isText_of_isElement hel) hf.rule hf.block
      hp.defersToContainer hf.converts hf.fits (hf.setOff (by rw [isTag_trimTexts, hli]))

theorem InOutline.isCellTag (hc : c.InOutline) : isCellTag c.parentTag? = false := by
  cases ht : c.parentTag? with
  | none => rfl
  | some t =>
    have hmem := hc.parentTag?_mem t ht
    simp only [outlineTags, List.mem_cons, List.not_mem_nil, or_false] at hmem
    rcases hmem with rfl | rfl | rfl | rfl | rfl | rfl <;> decide

theorem cellPrefix_of_isCellTag (h : isCellTag c.parentTag? = false) : cellPrefix c = "\n" := by
  simp [cellPrefix, h]

theorem cellSuffix_of_isCellTag (h : isCellTag c.parentTag? = false) : cellSuffix c = "\n" := by
  simp [cellSuffix, h]

theorem Throughout.isChain_trimTexts {o : Options} (h : c.Throughout (Outlined o)) :
    c.trimTexts.children.IsChain fun a b => ¬(a.node.isText ∧ b.node.isText) := by
  have htexts := h.self.texts
  rw [← map_node_children, List.isChain_map] at htexts
  rw [children_trimTexts, List.isChain_map]
  simpa only [trimTexts_node, Node.isText_trimTexts] using htexts

theorem Throughout.childrenLayOut (h : c.Throughout (Outlined {})) (hc : c.InOutline)
    (hnl : c.isTag "ul" = false ∧ c.isTag "ol" = false) {quiet : Prop}
    (hq : quiet → ∀ d ∈ c.children, d.node.isText → d.node.isBlankText)
    (hkids : ∀ d ∈ c.children, d.node.isElement = true →
      ∃ r f, ConvertsFitting Setting.standard (lineLength - d.inset {}) d.trimTexts r f) :
    ∀ d' ∈ c.trimTexts.children,
      LaysOut Setting.standard (lineLength - (c.inset {} + c.lead {})) quiet d' := by
  intro d' hd'
  rw [children_trimTexts] at hd'
  obtain ⟨d, hd, rfl⟩ := List.mem_map.1 hd'
  rw [← inset_of_mem_children {} hd]
  have hli : d.isTag "li" = false := by
    cases hl : d.isTag "li"
    · rfl
    · have := h.self.items d.node (List.mem_of_getElem? (mem_children.1 hd).choose_spec.1) hl
      simp [hnl.1, hnl.2] at this
  exact h.laysOut_of_mem hc hd (fun q => hq q d hd) hli (hkids d hd)

theorem isTag_eq_tag (hel : c.node.isElement = true) (t : String) : c.isTag t = (c.tag == t) := by
  simp [isTag, Node.isTag, tag, hel]

theorem Node.isBlankText_of_isElement {n : Node} (h : n.isElement = true) : n.isBlankText = false := by
  simp [Node.isBlankText, Node.isText_of_isElement h]

theorem InOutline.parentTag?_ne_list (hc : c.InOutline) (hel : c.node.isElement = true)
    (hli : c.tag ≠ "li") : c.parentTag? ≠ some "ol" ∧ c.parentTag? ≠ some "ul" := by
  have hnot : ¬(c.isTag "li" ∨ c.node.isBlankText) := by
    simp [isTag_eq_tag hel, hli, Node.isBlankText_of_isElement hel]
  exact ⟨fun h => hnot (hc.listed (.inr h)), fun h => hnot (hc.listed (.inl h))⟩

theorem InOutline.resolveLayout_trimTexts (hc : c.InOutline) (h : c.Throughout (Outlined {}))
    (hel : c.node.isElement = true) (htag : c.tag ∈ wrappableTags) :
    resolveLayout {} c.trimTexts = ⟨c.tag != "div", if c.inset {} + c.lead {} < lineLength then
      some (lineLength - (c.inset {} + c.lead {})) else none⟩ := by
  rw [(hc.plainBlock h).resolveLayout (by simpa using hel) (by simpa using htag), tag_trimTexts,
    inset_trimTexts, lead_trimTexts]

theorem Throughout.formatChildren_fits (h : c.Throughout (Outlined {})) (hc : c.InOutline)
    (hel : c.node.isElement = true) (htag : c.tag ∈ wrappableTags)
    (hkids : ∀ d ∈ c.children, d.node.isElement = true →
      ∃ r f, ConvertsFitting Setting.standard (lineLength - d.inset {}) d.trimTexts r f)
    {quiet : Prop} (hq : quiet → ∀ d ∈ c.children, d.node.isText → d.node.isBlankText)
    (hq' : quiet → ∃ d ∈ c.children, d.node.isText = false) :
    ∃ content, Setting.standard.formatChildren c.trimTexts (resolveLayout {} c.trimTexts)
        (chunkerFor {} c.trimTexts) = .ok (if c.tag != "div" then trimWhite content else content) ∧
      Fits (lineLength - (c.inset {} + c.lead {})) content.toList ∧ (quiet → SetOff content.toList) := by
  have hlay := hc.resolveLayout_trimTexts h hel htag
  have hnl : c.isTag "ul" = false ∧ c.isTag "ol" = false := by
    simp only [wrappableTags, List.mem_cons, List.not_mem_nil, or_false] at htag
    rw [isTag_eq_tag hel, isTag_eq_tag hel]
    rcases htag with h | h | h | h <;> rw [h] <;> decide
  have hwidth : (resolveLayout {} c.trimTexts).width = some (lineLength - (c.inset {} + c.lead {})) ∨
      (resolveLayout {} c.trimTexts).width = none ∧ lineLength - (c.inset {} + c.lead {}) = 0 := by
    rw [hlay]
    exact layoutWidth_cases _
  obtain ⟨content, hfmt, hfits, hset⟩ := Setting.formatChildren_fits hwidth
    (h.childrenLayOut hc hnl hq hkids) h.isChain_trimTexts fun q => by
      obtain ⟨d, hd, ht⟩ := hq' q
      exact ⟨d.trimTexts, by rw [children_trimTexts]; exact List.mem_map_of_mem hd, by simpa using ht⟩
  refine ⟨content, ?_, hfits, hset⟩
  rw [chunkerFor_default, hfmt, hlay]

theorem Throughout.paragraph_fits (h : c.Throughout (Outlined {})) (hc : c.InOutline)
    (hel : c.node.isElement = true) (htag : c.tag = "p")
    (hkids : ∀ d ∈ c.children, d.node.isElement = true →
      ∃ r f, ConvertsFitting Setting.standard (lineLength - d.inset {}) d.trimTexts r f) :
    ∃ f, ConvertsFitting Setting.standard (lineLength - c.inset {}) c.trimTexts .paragraph f := by
  obtain ⟨content, hfmt, hfits, -⟩ := h.formatChildren_fits hc hel (by rw [htag]; decide) hkids
    (fun (h : False) => h.elim) (fun (h : False) => h.elim)
  have hlead : c.lead {} = 0 := by simp [lead, isTag_eq_tag hel, htag]
  obtain ⟨hol, hul⟩ := hc.parentTag?_ne_list hel (by rw [htag]; decide)
  have hcell : isCellTag c.trimTexts.parentTag? = false := by simpa using hc.isCellTag
  rw [hlead, Nat.add_zero] at hfits
  obtain ⟨hfr, hset⟩ := fits_between_breaks (hfits.of_isInfix (trimWhite_isInfix content))
  refine ⟨⟨"\n", trimWhite content, "\n"⟩, Setting.ruleFor_of_get? rfl
    (by rw [tag_trimTexts, htag]; decide), rfl, ?_, hfr, hset.2, fun _ => hset⟩
  rw [Setting.convertWith_paragraph _ (by simpa using hol) (by simpa using hul),
    Setting.standard_options, hfmt, cellPrefix_of_isCellTag hcell, cellSuffix_of_isCellTag hcell]
  simp [htag, bind, Except.bind, pure, Except.pure]

theorem trimBlock_of_canTrim {o : Options} {content : String} (h : (resolveLayout o c).canTrim = true) :
    trimBlock o c content = trimWhite content := by
  simp [trimBlock, h]

theorem Throughout.blockquote_fits (h : c.Throughout (Outlined {})) (hc : c.InOutline)
    (hel : c.node.isElement = true) (htag : c.tag = "blockquote")
    (hkids : ∀ d ∈ c.children, d.node.isElement = true →
      ∃ r f, ConvertsFitting Setting.standard (lineLength - d.inset {}) d.trimTexts r f) :
    ∃ f, ConvertsFitting Setting.standard (lineLength - c.inset {}) c.trimTexts .blockquote f := by
  have hwrap : c.tag ∈ wrappableTags := by rw [htag]; decide
  obtain ⟨content, hfmt, hfits, -⟩ := h.formatChildren_fits hc hel hwrap hkids
    (fun (h : False) => h.elim) (fun (h : False) => h.elim)
  have hif : (if (c.tag != "div") = true then trimWhite content else content) = trimWhite content := by
    simp [htag]
  have hlead : c.lead {} = 2 := by simp [lead, isTag_eq_tag hel, htag]
  have hroom : c.inset {} + 2 ≤ lineLength := h.self.quote (by simp [isTag_eq_tag hel, htag])
  have htrim : trimBlock {} c.trimTexts (trimWhite content) = trimWhite (trimWhite content) :=
    trimBlock_of_canTrim (by rw [hc.resolveLayout_trimTexts h hel hwrap, htag]; rfl)
  rw [hlead, ← Nat.sub_sub] at hfits
  have hquote := fits_quoteLines (w := lineLength - c.inset {}) (by omega)
    (hfits.of_isInfix ((trimWhite_isInfix _).trans (trimWhite_isInfix content)))
  -- a blank line on each side: line feeds around the quote, twice
  obtain ⟨hinner, -⟩ := fits_between_breaks hquote
  obtain ⟨hfr, hset⟩ := fits_between_breaks hinner
  have hrender : ("\n\n" ++ quoteLines (trimWhite (trimWhite content)) ++ "\n\n").toList =
      ("\n" ++ ("\n" ++ quoteLines (trimWhite (trimWhite content)) ++ "\n") ++ "\n").toList := by
    simp only [String.toList_append, toList_lineFeed, show "\n\n".toList = ['\n', '\n'] from rfl]
    simp
  refine ⟨⟨"\n\n", quoteLines (trimWhite (trimWhite content)), "\n\n"⟩, Setting.ruleFor_of_get? rfl
    (by rw [tag_trimTexts, htag]; decide), rfl, ?_, ?_, ?_, fun _ => ?_⟩
  · rw [Setting.convertWith_blockquote, Setting.standard_options, hfmt, hif]
    simp only [bind, Except.bind, pure, Except.pure, htrim]
  · dsimp only [Fragment.render]
    rw [hrender]
    exact hfr
  · dsimp only [Fragment.render]
    rw [hrender]
    exact hset.2
  · dsimp only [Fragment.render]
    rw [hrender]
    exact hset

theorem Throughout.listItem_fits (h : c.Throughout (Outlined {})) (hc : c.InOutline)
    (hel : c.node.isElement = true) (htag : c.tag = "li")
    (hkids : ∀ d ∈ c.children, d.node.isElement = true →
      ∃ r f, ConvertsFitting Setting.standard (lineLength - d.inset {}) d.trimTexts r f) :
    ∃ f, ConvertsFitting Setting.standard (lineLength - c.inset {}) c.trimTexts .listItem f := by
  have hwrap : c.tag ∈ wrappableTags := by rw [htag]; decide
  obtain ⟨content, hfmt, hfits, -⟩ := h.formatChildren_fits hc hel hwrap hkids
    (fun (h : False) => h.elim) (fun (h : False) => h.elim)
  have hif : (if (c.tag != "div") = true then trimWhite content else content) = trimWhite content := by
    simp [htag]
  have hlead : c.lead {} = markerWidth {} c := by simp [lead, isTag_eq_tag hel, htag]
  have hroom : c.inset {} + markerWidth {} c ≤ lineLength :=
    h.self.item (by simp [isTag_eq_tag hel, htag])
  have htrim : trimBlock {} c.trimTexts (trimWhite content) = trimWhite (trimWhite content) :=
    trimBlock_of_canTrim (by rw [hc.resolveLayout_trimTexts h hel hwrap, htag]; rfl)
  have hmarker : (listItemMarker {} c.trimTexts).length = markerWidth {} c := by
    rw [← markerWidth_trimTexts]
    rfl
  rw [hlead, ← Nat.sub_sub, ← hmarker] at hfits
  have hhang := fits_marker_hangingIndent (w := lineLength - c.inset {}) (by omega)
    (hfits.of_isInfix ((trimWhite_isInfix _).trans (trimWhite_isInfix content)))
  refine ⟨⟨listItemMarker {} c.trimTexts, hangingIndent (listItemMarker {} c.trimTexts).length
    (trimWhite (trimWhite content)), "\n"⟩, Setting.ruleFor_of_get? rfl
    (by rw [tag_trimTexts, htag]; decide), rfl, ?_, ?_, ?_, fun hli => ?_⟩
  · rw [Setting.convertWith_listItem, Setting.standard_options, hfmt, hif]
    simp only [bind, Except.bind, pure, Except.pure, htrim]
  · dsimp only [Fragment.render]
    rw [String.toList_append, toList_lineFeed]
    exact hhang.append fits_break (.inr (.inr rfl))
  · dsimp only [Fragment.render]
    rw [String.toList_append, toList_lineFeed, List.getLast?_append]
    rfl
  · simp [isTag_eq_tag hel, htag] at hli

theorem Throughout.list_fits (h : c.Throughout (Outlined {})) (hc : c.InOutline)
    (hel : c.node.isElement = true) (htag : c.tag = "ul" ∨ c.tag = "ol")
    (hkids : ∀ d ∈ c.children, d.node.isElement = true →
      ∃ r f, ConvertsFitting Setting.standard (lineLength - d.inset {}) d.trimTexts r f) :
    ∃ f, ConvertsFitting Setting.standard (lineLength - c.inset {}) c.trimTexts .list f := by
  have hp := hc.plainBlock h
  obtain ⟨hol, hul⟩ := hc.parentTag?_ne_list hel (by rcases htag with h | h <;> rw [h] <;> decide)
  have hrule : Setting.standard.ruleFor c.trimTexts = .ok .list := Setting.ruleFor_of_get? rfl
    (by rw [tag_trimTexts]; rcases htag with h | h <;> rw [h] <;> decide)
  have hlead : c.lead {} = 0 := by rcases htag with h | h <;> simp [lead, isTag_eq_tag hel, h]
  have hlist : c.isTag "ul" ∨ c.isTag "ol" := by
    rcases htag with h | h <;> simp [isTag_eq_tag hel, h]
  -- an item converts as a block, a blank text to nothing
  have hkid : ∀ d' ∈ c.trimTexts.children, ∃ out, Setting.standard.convert d' = .ok out ∧
      Fits (lineLength - c.inset {}) out.toList ∧ (out = "" ∨ out.toList.getLast? = some '\n') := by
    intro d' hd'
    rw [children_trimTexts] at hd'
    obtain ⟨d, hd, rfl⟩ := List.mem_map.1 hd'
    have hW : lineLength - d.inset {} = lineLength - c.inset {} := by
      rw [inset_of_mem_children {} hd, hlead, Nat.add_zero]
    obtain ⟨i, hi, -⟩ := mem_children.1 hd
    have hlisted := h.self.lists hlist d.node (List.mem_of_getElem? hi)
    rcases (h.of_mem_children hd).self.node with ⟨v, hv, hchars⟩ | ⟨hdel, -⟩
    · have hb : ∀ x ∈ v.toList, isMarkupBlank x = true := by
        rcases hlisted with hli | hb
        · simp [hv, Node.isTag, Node.text, Node.isElement] at hli
        · simpa [hv, Node.isBlankText, Node.text, Node.isText] using hb
      refine ⟨"", ?_, fits_nil, .inl rfl⟩
      rw [Setting.convert_of_ok (ruleFor_trimTexts_text hv) (Setting.convertWith_text _ _)]
      simp [Fragment.render, Fragment.ofContent, textMarkdown_trimTexts (o := {}) rfl hv hchars,
        normalizeValue_of_blank hb]
    · obtain ⟨r, f, hf⟩ := hkids d hd hdel
      exact ⟨f.render, Setting.convert_of_ok hf.rule hf.converts, hW ▸ hf.fits, .inr hf.ends⟩
  obtain ⟨out, hout, hfits, -⟩ := Setting.convertChildren_fits hkid
  obtain ⟨hfr, hset⟩ := fits_between_breaks hfits
  refine ⟨⟨"\n", out, "\n"⟩, hrule, rfl, ?_, hfr, hset.2, fun _ => hset⟩
  rw [Setting.convertWith_list _ hp.tableAbove (by simpa using hol) (by simpa using hul), hout]
  rfl

end Cursor

theorem Setting.divContent_eq_formatChildren (s : Setting) (c : Cursor) (layout : Layout)
    (mode : ShortcodeMode) :
    s.divContent c layout mode = s.formatChildren (divChainEnd c) layout mode := by
  fun_induction divChainEnd c with
  | case1 c d h _ hdiv ih => rw [Setting.divContent_of_eq layout h, if_pos hdiv, ih]
  | case2 c d h _ hdiv => rw [Setting.divContent_of_eq layout h, if_neg hdiv]
  | case3 c hne => rw [Setting.divContent_of_ne layout hne]

namespace Cursor

variable {o : Options} {P : Cursor → Prop} {c : Cursor}

theorem divChainEnd_trimTexts (c : Cursor) :
    divChainEnd c.trimTexts = (divChainEnd c).trimTexts :=
  divChainEnd_map filter_children_trimTexts (fun c => isTag_trimTexts c "div") c

theorem Throughout.chainEnd : c.Throughout P → (divChainEnd c).Throughout P := by
  fun_induction divChainEnd c with
  | case1 c d _ hmem _ ih => exact fun h => ih (h.of_mem_children hmem)
  | case2 => exact id
  | case3 => exact id

theorem InOutline.chainEnd :
    c.Throughout (Outlined o) → c.InOutline → (divChainEnd c).InOutline := by
  fun_induction divChainEnd c with
  | case1 c d _ hmem _ ih =>
    exact fun h hc => ih (h.of_mem_children hmem) (hc.of_mem_children h.self hmem)
  | case2 => exact fun _ hc => hc
  | case3 => exact fun _ hc => hc

theorem lead_of_isTag_div (h : c.isTag "div" = true) : c.lead o = 0 := by
  simp only [isTag, Node.isTag, Bool.and_eq_true, beq_iff_eq] at h
  simp [lead, isTag, Node.isTag, h.2]

theorem isTag_divChainEnd : c.isTag "div" = true → (divChainEnd c).isTag "div" = true := by
  fun_induction divChainEnd c with
  | case1 c d _ _ hdiv ih => exact fun _ => ih hdiv
  | case2 => exact id
  | case3 => exact id

theorem inset_divChainEnd : c.isTag "div" = true → (divChainEnd c).inset o = c.inset o := by
  fun_induction divChainEnd c with
  | case1 c d _ hmem hdiv ih =>
    intro hc
    rw [ih hdiv, inset_of_mem_children o hmem, lead_of_isTag_div hc, Nat.add_zero]
  | case2 => exact fun _ => rfl
  | case3 => exact fun _ => rfl

theorem contentChildren_eq_singleton {only : Node} (h : c.node.contentChildren = [only])
    (hel : only.isElement = true) :
    ∃ d, c.children.filter (fun d => !d.node.isBlankText) = [d] ∧ d.node = only ∧
      ∀ d' ∈ c.children, d'.node.isText → d'.node.isBlankText := by
  have hmap : (c.children.filter fun d => !d.node.isBlankText).map node =
      c.node.contentChildren := by
    rw [Node.contentChildren, ← map_node_children, List.filter_map]
    rfl
  rw [h, List.map_eq_singleton_iff] at hmap
  obtain ⟨d, hfilter, hd⟩ := hmap
  refine ⟨d, hfilter, hd, fun d' hd' ht => ?_⟩
  -- a text that is not blank would be a second child that is not blank text
  by_contra hb
  have hmem : d' ∈ c.children.filter (fun d => !d.node.isBlankText) :=
    List.mem_filter.2 ⟨hd', by simpa using hb⟩
  rw [hfilter, List.mem_singleton] at hmem
  rw [hmem, hd, Node.isText_of_isElement hel] at ht
  cases ht

theorem isElement_of_isTag {n : Node} {t : String} (h : n.isTag t = true) : n.isElement = true := by
  simp only [Node.isTag, Bool.and_eq_true] at h
  exact h.1

theorem divChainEnd_of_lone_block {only : Node} (hcc : c.node.contentChildren = [only])
    (hany : ["p", "pre", "ol", "table"].any only.isTag = true) :
    divChainEnd c = c ∧ (∀ d ∈ c.children, d.node.isText → d.node.isBlankText) ∧
      ∃ d ∈ c.children, d.node.isText = false := by
  have honly : only.isElement = true := by
    obtain ⟨t, -, ht⟩ := List.any_eq_true.1 hany
    exact isElement_of_isTag ht
  obtain ⟨d, hfilter, hd, hblank⟩ := contentChildren_eq_singleton hcc honly
  have hnd : d.isTag "div" = false := by
    obtain ⟨t, ht, htd⟩ := List.any_eq_true.1 hany
    simp only [Node.isTag, Bool.and_eq_true, beq_iff_eq] at htd
    simp only [List.mem_cons, List.not_mem_nil, or_false] at ht
    simp only [isTag, Node.isTag, hd, htd.2, Bool.and_eq_false_iff, beq_eq_false_iff_ne]
    rcases ht with rfl | rfl | rfl | rfl <;> exact .inr (by decide)
  have hdmem : d ∈ c.children := List.mem_of_mem_filter (hfilter ▸ List.mem_singleton_self d)
  refine ⟨?_, hblank, d, hdmem, ?_⟩
  · rw [divChainEnd_of_eq hfilter, if_neg (by simp [hnd])]
  · rw [hd]
    exact Node.isText_of_isElement honly

theorem Throughout.div_fits (h : c.Throughout (Outlined {})) (hc : c.InOutline)
    (hel : c.node.isElement = true) (htag : c.tag = "div")
    (hkids : ∀ d ∈ (divChainEnd c).children, d.node.isElement = true →
      ∃ r f, ConvertsFitting Setting.standard (lineLength - d.inset {}) d.trimTexts r f) :
    ∃ f, ConvertsFitting Setting.standard (lineLength - c.inset {}) c.trimTexts .div f := by
  have hdiv : c.isTag "div" = true := by simp [isTag_eq_tag hel, htag]
  have he := h.chainEnd
  have hce := hc.chainEnd h
  have hediv := isTag_divChainEnd hdiv
  have heel : (divChainEnd c).node.isElement = true := isElement_of_isTag hediv
  have hetag : (divChainEnd c).tag = "div" := by simpa [isTag_eq_tag heel] using hediv
  -- the content is set off when the chain's end holds blank texts and a block
  obtain ⟨content, hfmt, hfits, hset⟩ := he.formatChildren_fits hce heel (by rw [hetag]; decide)
    hkids (fun (q : (∀ d ∈ (divChainEnd c).children, d.node.isText → d.node.isBlankText) ∧
      ∃ d ∈ (divChainEnd c).children, d.node.isText = false) => q.1) fun q => q.2
  rw [inset_divChainEnd hdiv, lead_of_isTag_div hediv, Nat.add_zero] at hfits
  have hlay : resolveLayout {} c.trimTexts = resolveLayout {} (divChainEnd c).trimTexts := by
    rw [hc.resolveLayout_trimTexts h hel (by rw [htag]; decide),
      hce.resolveLayout_trimTexts he heel (by rw [hetag]; decide), htag, hetag,
      inset_divChainEnd hdiv, lead_of_isTag_div hdiv, lead_of_isTag_div hediv]
  have hcontent : Setting.standard.divContent c.trimTexts (resolveLayout {} c.trimTexts)
      (chunkerFor {} c.trimTexts) = .ok content := by
    rw [Setting.divContent_eq_formatChildren, divChainEnd_trimTexts, hlay, chunkerFor_default,
      ← chunkerFor_default (divChainEnd c).trimTexts, hfmt, hetag, if_neg (by decide)]
  have hcell : isCellTag c.trimTexts.parentTag? = false := by simpa using hc.isCellTag
  have hrule : Setting.standard.ruleFor c.trimTexts = .ok .div :=
    Setting.ruleFor_of_get? rfl (by rw [tag_trimTexts, htag]; decide)
  by_cases hone : ∃ only, c.node.contentChildren = [only] ∧
      ["p", "pre", "ol", "table"].any only.isTag = true
  · -- a paragraph or a list alone is the chain's end, and comes set off on its own
    obtain ⟨only, hcc, hany⟩ := hone
    obtain ⟨hend, hlone⟩ := divChainEnd_of_lone_block hcc hany
    have hsetoff := hset (by rw [hend]; exact hlone)
    refine ⟨.ofContent content, hrule, rfl, ?_, by simpa [Fragment.render, Fragment.ofContent],
      by simpa [Fragment.render, Fragment.ofContent] using hsetoff.2,
      fun _ => by simpa [Fragment.render, Fragment.ofContent] using hsetoff⟩
    have hany' : ["p", "pre", "ol", "table"].any only.trimTexts.isTag = true := by simpa using hany
    rw [Setting.convertWith_div, Setting.standard_options, hcontent, contentChildren_trimTexts, hcc]
    simp only [List.map_cons, List.map_nil, bind, Except.bind, hany', if_true]
    rfl
  · -- otherwise the content stands between line feeds
    obtain ⟨hfr, hsetoff⟩ := fits_between_breaks hfits
    refine ⟨⟨"\n", content, "\n"⟩, hrule, rfl, ?_, hfr, hsetoff.2, fun _ => hsetoff⟩
    rw [Setting.convertWith_div, Setting.standard_options, hcontent, cellPrefix_of_isCellTag hcell,
      cellSuffix_of_isCellTag hcell, contentChildren_trimTexts]
    simp only [bind, Except.bind]
    split
    · next only hcc =>
      obtain ⟨only', hcc', rfl⟩ := List.map_eq_singleton_iff.1 hcc
      have hany : (["p", "pre", "ol", "table"].any only'.trimTexts.isTag) = false := by
        rw [Bool.eq_false_iff]
        exact fun h' => hone ⟨only', hcc', by simpa using h'⟩
      rw [hany]
      rfl
    · rfl

theorem Throughout.convertsFitting {c : Cursor} (h : c.Throughout (Outlined {})) (hc : c.InOutline)
    (hel : c.node.isElement = true) :
    ∃ r f, ConvertsFitting Setting.standard (lineLength - c.inset {}) c.trimTexts r f := by
  have hkids : ∀ d ∈ c.children, d.node.isElement = true →
      ∃ r f, ConvertsFitting Setting.standard (lineLength - d.inset {}) d.trimTexts r f :=
    fun d hd hdel => (h.of_mem_children hd).convertsFitting (hc.of_mem_children h.self hd) hdel
  have htag : c.tag ∈ outlineTags := by
    rcases h.self.node with ⟨v, hv, -⟩ | ⟨-, htag⟩
    · simp [hv, Node.text, Node.isElement] at hel
    · exact htag
  simp only [outlineTags, List.mem_cons, List.not_mem_nil, or_false] at htag
  rcases htag with htag | htag | htag | htag | htag | htag
  · exact ⟨_, h.paragraph_fits hc hel htag hkids⟩
  · have hend : ∀ d ∈ (divChainEnd c).children, d.node.isElement = true →
        ∃ r f, ConvertsFitting Setting.standard (lineLength - d.inset {}) d.trimTexts r f :=
      fun d hd hdel => (h.chainEnd.of_mem_children hd).convertsFitting
        ((hc.chainEnd h).of_mem_children h.chainEnd.self hd) hdel
    exact ⟨_, h.div_fits hc hel htag hend⟩
  · exact ⟨_, h.blockquote_fits hc hel htag hkids⟩
  · exact ⟨_, h.list_fits hc hel (.inl htag) hkids⟩
  · exact ⟨_, h.list_fits hc hel (.inr htag) hkids⟩
  · exact ⟨_, h.listItem_fits hc hel htag hkids⟩
termination_by sizeOf c.node
decreasing_by
  · exact sizeOf_lt_of_mem_children hd
  · exact (sizeOf_lt_of_mem_children hd).trans_le (sizeOf_divChainEnd_le c)

end Cursor

theorem Cursor.inset_root (o : Options) (n : Node) : (Cursor.root n).inset o = 0 := rfl

theorem Node.normalizeTree_text (v : String) : (Node.text v).normalizeTree = .text v := by
  rw [Node.normalizeTree, Node.normalizeWhitespace_eq_mk, Node.normalizeWhitespace_children]
  rfl

theorem Cursor.Throughout.convert_root_fits {t : Node}
    (h : (Cursor.root t).Throughout (Outlined {})) :
    ∃ out, Setting.standard.convert (Cursor.root t.normalizeTree) = .ok out ∧
      Fits lineLength out.toList := by
  rcases h.self.node with ⟨v, hv, -⟩ | ⟨hel, htag⟩
  · have ht : t = .text v := hv
    subst ht
    have hblank : (Node.text v).isBlankText = true := by
      by_contra hb
      obtain ⟨a, ha, -⟩ := h.self.words rfl (Bool.eq_false_iff.2 hb)
      simp [Cursor.parent?, Cursor.root, Cursor.ancestors, Cursor.ancestorsOn] at ha
    have hmd : textMarkdown {} (Cursor.root (.text v)) = if v == " " then " " else "" := by
      simp [textMarkdown, hblank, Cursor.parentTag?, Cursor.root]
      rfl
    refine ⟨(Fragment.ofContent (textMarkdown {} (Cursor.root (.text v)))).render, ?_, ?_⟩
    · rw [Node.normalizeTree_text]
      exact Setting.convert_of_ok (Setting.ruleFor_of_get? rfl Registry.builtIn_get?_text)
        (Setting.convertWith_text _ _)
    · simp only [Fragment.render, Fragment.ofContent, String.empty_append, String.append_empty, hmd]
      split
      · exact fits_line (by decide)
      · exact fits_nil
  · -- an element at the root is no preformatted block, so normalizing trims the outline's texts
    have hpre : t.isTag "pre" = false := h.self.isTag_eq_false (by decide)
    have hnorm : t.normalizeTree = t.trimTexts := by
      rw [Node.normalizeTree, hpre]
      exact h.normalizeWhitespace_eq_trimTexts hel
    obtain ⟨r, f, hf⟩ := h.convertsFitting (Cursor.inOutline_root t) hel
    refine ⟨f.render, ?_, ?_⟩
    · rw [hnorm, ← Cursor.root_trimTexts]
      exact Setting.convert_of_ok hf.rule hf.converts
    · simpa [Cursor.inset_root] using hf.fits

/-- Lines of converted outlines fit the line length. -/
theorem convert_lines_fit {t : Node} (h : (Cursor.root t).Throughout (Cursor.Outlined {})) :
    ∃ out, (∀ l ∈ out.toList.splitOn '\n', lineWidth l ≤ lineLength) ∧
      (Service.withOptions {}).convert t =
        if t.maxDepth ≤ ({} : Options).maxDepth then .ok out
        else .error (.depthLimitExceeded t.maxDepth ({} : Options).maxDepth) := by
  obtain ⟨md, hmd, hfits⟩ := h.convert_root_fits
  refine ⟨collapseBlankLines md, fun l hl => ?_, ?_⟩
  · -- collapsing blank lines keeps every line as it is or takes it away
    obtain ⟨hlf, hin⟩ := mem_splitOn hl
    exact fits_collapseBlankLines hfits l hin hlf
  · rw [Service.convert_eq, show (Service.withOptions {}).options = {} from rfl]
    by_cases hd : t.maxDepth ≤ ({} : Options).maxDepth
    · rw [if_pos hd, if_pos hd]
      show (do let markdown ← Setting.standard.convert _; pure _) = _
      rw [hmd]
      rfl
    · rw [if_neg hd, if_neg hd]

theorem convert_quoted_item_lines_fit :
    (Cursor.root ⟨.element, "blockquote", "", [], [⟨.element, "ul", "", [],
      [⟨.element, "li", "", [], [.text "to be or not to be"]⟩]⟩]⟩).Throughout
      (Cursor.Outlined {}) ∧
    ∃ out, (∀ l ∈ out.toList.splitOn '\n', lineWidth l ≤ lineLength) ∧
      (Service.withOptions {}).convert ⟨.element, "blockquote", "", [], [⟨.element, "ul", "", [],
        [⟨.element, "li", "", [], [.text "to be or not to be"]⟩]⟩]⟩ =
        if (⟨.element, "blockquote", "", [], [⟨.element, "ul", "", [],
          [⟨.element, "li", "", [], [.text "to be or not to be"]⟩]⟩]⟩ : Node).maxDepth ≤
          ({} : Options).maxDepth then .ok out
        else .error (.depthLimitExceeded (⟨.element, "blockquote", "", [], [⟨.element, "ul", "",
          [], [⟨.element, "li", "", [], [.text "to be or not to be"]⟩]⟩]⟩ : Node).maxDepth
          ({} : Options).maxDepth) := by
  have h : (Cursor.root ⟨.element, "blockquote", "", [], [⟨.element, "ul", "", [],
      [⟨.element, "li", "", [], [.text "to be or not to be"]⟩]⟩]⟩).Throughout
      (Cursor.Outlined {}) := by
    -- the quote, the list and the item each hold an outline's conditions, then so does the child
    iterate 3
      refine .intro ⟨.inr ⟨rfl, by decide⟩, by decide +kernel, by decide +kernel,
        by decide +kernel, by decide +kernel, by decide +kernel, fun ht => absurd ht (by decide)⟩
        fun d hd => ?_
      simp only [Cursor.children, Cursor.root, List.zipIdx_cons, List.zipIdx_nil, List.map_cons,
        List.map_nil, List.mem_singleton] at hd
      subst hd
    -- the text's words fit the columns beside the quote's mark and the item's marker
    refine .intro ⟨.inl ⟨_, rfl, by simp [isMarkupBlank]⟩, by decide +kernel, by decide +kernel,
      by decide +kernel, by decide +kernel, by decide +kernel, fun _ _ => ⟨_, rfl,
        wordsWithin_of_length_le (le_trans (b := 18)
          (by simp [Node.textContents, Node.textContent, Node.text]) (by decide +kernel))⟩⟩
      fun _ hd => (List.not_mem_nil hd).elim
  exact ⟨h, convert_lines_fit h⟩

end HtmlMarkdown
