import HtmlMarkdown.Convert.Service

namespace HtmlMarkdown

/-- Two texts that write their runs of markup blanks differently. -/
inductive BlankRunsVariant : List Char → List Char → Prop
  | nil : BlankRunsVariant [] []
  | cons (c : Char) {a b : List Char} : BlankRunsVariant a b → BlankRunsVariant (c :: a) (c :: b)
  | run {r r' a b : List Char} : r ≠ [] → r' ≠ [] → (∀ x ∈ r, isMarkupBlank x = true) →
      (∀ x ∈ r', isMarkupBlank x = true) → BlankRunsVariant a b →
      BlankRunsVariant (r ++ a) (r' ++ b)

theorem collapseBlanks_blank_run {r : List Char} (hr : r ≠ [])
    (hb : ∀ x ∈ r, isMarkupBlank x = true) (blank : Bool) (a : List Char) :
    collapseBlanks blank (r ++ a) = collapseBlanks blank (' ' :: a) := by
  have hsp : isMarkupBlank ' ' = true := rfl
  induction r generalizing blank with
  | nil => exact absurd rfl hr
  | cons x r ih =>
    have hx : isMarkupBlank x = true := hb x List.mem_cons_self
    cases r with
    | nil => simp only [List.cons_append, List.nil_append, collapseBlanks, hx, hsp, if_true]
    | cons y r =>
      -- the first blank is written (or not) as the space would be, the rest of the run as nothing
      have hrest := ih (List.cons_ne_nil y r) (fun z hz => hb z (List.mem_cons_of_mem x hz)) true
      rw [List.cons_append, collapseBlanks, if_pos hx, hrest]
      simp only [collapseBlanks, hsp, if_true]

theorem BlankRunsVariant.collapseBlanks_eq {a b : List Char} (h : BlankRunsVariant a b)
    (blank : Bool) : collapseBlanks blank a = collapseBlanks blank b := by
  induction h generalizing blank with
  | nil => rfl
  | cons c _ ih => simp only [collapseBlanks, ih]
  | run hr hr' hb hb' _ ih =>
    rw [collapseBlanks_blank_run hr hb, collapseBlanks_blank_run hr' hb']
    simp only [collapseBlanks, ih]

theorem BlankRunsVariant.normalizeValue_eq {v v' : String}
    (h : BlankRunsVariant v.toList v'.toList) (trimStart trimEnd : Bool) :
    normalizeValue v trimStart trimEnd = normalizeValue v' trimStart trimEnd := by
  simp only [normalizeValue, h.collapseBlanks_eq false]

namespace Node

/-- The normalized form of the child at position `i`, given which siblings are blocks. -/
def normalizeChild (inPre parentIsBlock : Bool) (blocks : List Bool) (c : Node) (i : Nat) : Node :=
  if c.isText then
    if inPre then c
    else
      let trimStart := (0 < i && blocks[i - 1]?.getD false) || (parentIsBlock && i == 0)
      let trimEnd := blocks[i + 1]?.getD false || (parentIsBlock && i + 1 == blocks.length)
      { c with value := normalizeValue c.value trimStart trimEnd }
  else if c.isElement then c.normalizeWhitespace (inPre || c.isTag "pre")
  else c

theorem normalizeWhitespace_children (inPre : Bool) (n : Node) :
    (n.normalizeWhitespace inPre).children =
      n.children.zipIdx.map fun (c, i) =>
        c.normalizeChild inPre n.isBlockElement (n.children.map isBlockElement) i := by
  rw [normalizeWhitespace]
  dsimp only
  conv => rhs; rw [← List.attach_map_subtype_val n.children]
  rw [List.zipIdx_map, List.map_map]
  refine List.map_congr_left fun ⟨⟨c, hc⟩, i⟩ _ => ?_
  simp [normalizeChild, List.getElem?_map]

theorem normalizeWhitespace_eq_mk (inPre : Bool) (n : Node) :
    n.normalizeWhitespace inPre =
      ⟨n.kind, n.name, n.value, n.attrs, (n.normalizeWhitespace inPre).children⟩ := by
  rw [normalizeWhitespace]

theorem normalizeChild_of_isElement {c : Node} (hc : c.isElement = true)
    (inPre parentIsBlock : Bool) (blocks : List Bool) (i : Nat) :
    c.normalizeChild inPre parentIsBlock blocks i =
      c.normalizeWhitespace (inPre || c.isTag "pre") := by
  have ht : c.isText = false := by
    simp only [isElement, beq_iff_eq] at hc
    simp [isText, hc]
  simp only [normalizeChild, ht, hc, Bool.false_eq_true, if_false, if_true]

theorem normalizeChild_text_variant {c : Node} {v : String} (hc : c.isText = true)
    (hv : BlankRunsVariant c.value.toList v.toList) (parentIsBlock : Bool) (blocks : List Bool)
    (i : Nat) :
    ({ c with value := v } : Node).normalizeChild false parentIsBlock blocks i =
      c.normalizeChild false parentIsBlock blocks i := by
  have ht : ({ c with value := v } : Node).isText = true := hc
  simp only [normalizeChild, ht, hc, if_true, Bool.false_eq_true, if_false, hv.normalizeValue_eq]

end Node

mutual
/-- `n'` is `n` with texts reached through elements, outside preformatted content, written
otherwise. -/
inductive Node.BlankVariant : Bool → Node → Node → Prop
  | mk {inPre : Bool} {n n' : Node} : n'.kind = n.kind → n'.name = n.name → n'.value = n.value →
      n'.attrs = n.attrs → Node.BlankVariants inPre n.children n'.children →
      Node.BlankVariant inPre n n'

inductive Node.BlankVariants : Bool → List Node → List Node → Prop
  | nil {inPre : Bool} : Node.BlankVariants inPre [] []
  | same {inPre : Bool} {cs cs' : List Node} (c : Node) :
      Node.BlankVariants inPre cs cs' → Node.BlankVariants inPre (c :: cs) (c :: cs')
  | text {cs cs' : List Node} {c : Node} {v : String} : c.isText = true →
      BlankRunsVariant c.value.toList v.toList → Node.BlankVariants false cs cs' →
      Node.BlankVariants false (c :: cs) ({ c with value := v } :: cs')
  | element {inPre : Bool} {cs cs' : List Node} {c c' : Node} : c.isElement = true →
      Node.BlankVariant (inPre || c.isTag "pre") c c' → Node.BlankVariants inPre cs cs' →
      Node.BlankVariants inPre (c :: cs) (c' :: cs')
end

namespace Node

theorem BlankVariant.isElement_eq {inPre : Bool} {n n' : Node} (h : n.BlankVariant inPre n') :
    n'.isElement = n.isElement := by
  obtain ⟨hk, -, -, -, -⟩ := h
  simp only [isElement, hk]

theorem BlankVariant.isTag_eq {inPre : Bool} {n n' : Node} (h : n.BlankVariant inPre n')
    (t : String) : n'.isTag t = n.isTag t := by
  rw [isTag, isTag, h.isElement_eq]
  obtain ⟨-, hn, -, -, -⟩ := h
  rw [hn]

theorem BlankVariant.isBlockElement_eq {inPre : Bool} {n n' : Node}
    (h : n.BlankVariant inPre n') : n'.isBlockElement = n.isBlockElement := by
  rw [isBlockElement, isBlockElement, h.isElement_eq]
  obtain ⟨-, hn, -, -, -⟩ := h
  rw [hn]

theorem BlankVariants.map_isBlockElement {inPre : Bool} {cs cs' : List Node} :
    BlankVariants inPre cs cs' → cs'.map isBlockElement = cs.map isBlockElement
  | .nil => rfl
  | .same c h => by rw [List.map_cons, List.map_cons, h.map_isBlockElement]
  | .text _ _ h => by
    rw [List.map_cons, List.map_cons, h.map_isBlockElement]
    rfl
  | .element _ hc h => by
    rw [List.map_cons, List.map_cons, h.map_isBlockElement, hc.isBlockElement_eq]

mutual
theorem BlankVariant.normalizeWhitespace_eq {inPre : Bool} {n n' : Node} :
    n.BlankVariant inPre n' → n'.normalizeWhitespace inPre = n.normalizeWhitespace inPre
  | h@(.mk hk hn hv ha hcs) => by
    rw [normalizeWhitespace_eq_mk _ n', normalizeWhitespace_eq_mk _ n,
      normalizeWhitespace_children, normalizeWhitespace_children, hk, hn, hv, ha,
      h.isBlockElement_eq, hcs.map_isBlockElement, hcs.normalizeChild_eq]

theorem BlankVariants.normalizeChild_eq {inPre : Bool} {cs cs' : List Node} :
    BlankVariants inPre cs cs' → ∀ {parentIsBlock : Bool} {blocks : List Bool} {k : Nat},
      (cs'.zipIdx k).map (fun (c, i) => c.normalizeChild inPre parentIsBlock blocks i) =
        (cs.zipIdx k).map (fun (c, i) => c.normalizeChild inPre parentIsBlock blocks i)
  | .nil => rfl
  | .same c h => by simp only [List.zipIdx_cons, List.map_cons, h.normalizeChild_eq]
  | .text hc hv h => by
    simp only [List.zipIdx_cons, List.map_cons, h.normalizeChild_eq,
      normalizeChild_text_variant hc hv]
  | .element hc hcc h => by
    simp only [List.zipIdx_cons, List.map_cons, h.normalizeChild_eq,
      normalizeChild_of_isElement hc, normalizeChild_of_isElement (hcc.isElement_eq ▸ hc),
      hcc.isTag_eq, hcc.normalizeWhitespace_eq]
end

mutual
theorem BlankVariant.maxDepth_eq {inPre : Bool} {n n' : Node} :
    n.BlankVariant inPre n' → n'.maxDepth = n.maxDepth
  | .mk _ _ _ _ h => by rw [maxDepth_eq, maxDepth_eq n, h.maxDepths_eq]

theorem BlankVariants.maxDepths_eq {inPre : Bool} {cs cs' : List Node} :
    BlankVariants inPre cs cs' → maxDepths cs' = maxDepths cs
  | .nil => rfl
  | .same _ h => by simp only [maxDepths, h.maxDepths_eq]
  | .text _ _ h => by simp only [maxDepths, h.maxDepths_eq, maxDepth_eq]
  | .element _ hc h => by simp only [maxDepths, h.maxDepths_eq, hc.maxDepth_eq]
end

end Node

/-- Trees whose texts below the root write their runs of blanks otherwise convert alike. -/
theorem convert_eq_of_blankVariant (svc : Service) {t t' : Node}
    (h : t.BlankVariant (t.isTag "pre") t') : svc.convert t = svc.convert t' := by
  -- the depth check sees the same depth, and the rest converts the same normalized tree
  have hnorm : t'.normalizeTree = t.normalizeTree := by
    rw [Node.normalizeTree, Node.normalizeTree, h.isTag_eq, h.normalizeWhitespace_eq]
  simp only [Service.convert, Service.render, h.maxDepth_eq, hnorm]

theorem convert_eq_of_blankVariant_paragraph :
    (Node.element "p" [] [.text "a \n\t b"]).BlankVariant
        ((Node.element "p" [] [.text "a \n\t b"]).isTag "pre")
        (Node.element "p" [] [.text "a b"]) ∧
      (Service.withOptions {}).convert (Node.element "p" [] [.text "a \n\t b"]) =
        (Service.withOptions {}).convert (Node.element "p" [] [.text "a b"]) := by
  have hv : BlankRunsVariant "a \n\t b".toList "a b".toList := by
    show BlankRunsVariant ('a' :: ([' ', '\n', '\t', ' '] ++ ['b'])) ('a' :: ([' '] ++ ['b']))
    exact .cons 'a' (.run (by simp) (by simp) (List.all_eq_true.1 rfl) (List.all_eq_true.1 rfl)
      (.cons 'b' .nil))
  have hpre : (Node.element "p" [] [.text "a \n\t b"]).isTag "pre" = false := by decide +kernel
  have hvar : (Node.element "p" [] [.text "a \n\t b"]).BlankVariant
      ((Node.element "p" [] [.text "a \n\t b"]).isTag "pre") (Node.element "p" [] [.text "a b"]) :=
    .mk rfl rfl rfl rfl (hpre ▸ .text rfl hv .nil)
  exact ⟨hvar, convert_eq_of_blankVariant _ hvar⟩

theorem Service.convert_root_text (o : Options) (ho : 1 ≤ o.maxDepth) (v : String) :
    (Service.withOptions o).convert (.text v) =
      .ok (let m := textMarkdown o (Cursor.root (.text v))
        if o.collapseBlankLines then collapseBlankLines m else m) := by
  have hnorm : (Node.text v).normalizeTree = Node.text v := by
    rw [Node.normalizeTree, Node.normalizeWhitespace]
    rfl
  have hget : Registry.builtIn.get? "#text" = some .text := by decide
  have hkind : (NodeKind.text == NodeKind.element) = false := rfl
  have hrule : Setting.ruleFor ⟨o, Registry.builtIn⟩ (Cursor.root (.text v)) = .ok .text := by
    simp only [Setting.ruleFor, Cursor.root, Node.isElement, Node.text, Cursor.tag, hkind, hget,
      Bool.false_and, Bool.false_eq_true, if_false]
  have hdepth : ¬(Service.withOptions o).options.maxDepth < (Node.text v).maxDepth := by
    rw [show (Node.text v).maxDepth = 1 from rfl]
    exact Nat.not_lt.2 ho
  rw [Service.convert, if_neg hdepth, Service.render, hnorm, Setting.convert]
  simp only [Service.withOptions] at hrule ⊢
  rw [hrule]
  simp only [bind, Except.bind]
  rw [Setting.convertWith.eq_def]
  simp only [pure, Except.pure, Fragment.ofContent, Fragment.render, String.empty_append,
    String.append_empty]
  rfl

theorem convert_root_text_keeps_blanks :
    BlankRunsVariant " ".toList "  ".toList ∧
      (Service.withOptions {}).convert (.text " ") = .ok " " ∧
      (Service.withOptions {}).convert (.text "  ") = .ok "" := by
  refine ⟨?_, ?_, ?_⟩
  · show BlankRunsVariant ([' '] ++ []) ([' ', ' '] ++ [])
    exact .run (by simp) (by simp) (List.all_eq_true.1 rfl) (List.all_eq_true.1 rfl) .nil
  · rw [Service.convert_root_text _ (by decide)]
    exact congrArg Except.ok (by decide +kernel)
  · rw [Service.convert_root_text _ (by decide)]
    exact congrArg Except.ok (by decide +kernel)

end HtmlMarkdown
