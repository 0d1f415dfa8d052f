import HtmlMarkdown.Proofs.PaddedConversion

namespace HtmlMarkdown

namespace Node

def isEmphasis (n : Node) : Bool := n.isTag "em" || n.isTag "i"

def isStrong (n : Node) : Bool := n.isTag "strong" || n.isTag "b"

/-- Whether the node is emphasis below emphasis, or strong emphasis below strong emphasis. -/
def isNestedIn (em strong : Bool) (n : Node) : Bool := em && n.isEmphasis || strong && n.isStrong

mutual
/-- The tree with every emphasis below emphasis, and every strong below strong, made a span. -/
def unnestEmphasis (em strong : Bool) : Node → Node
  | n@⟨k, name, v, attrs, cs⟩ =>
    ⟨k, if n.isNestedIn em strong then "span" else name, v, attrs,
      unnestEmphasisList (n.isEmphasis || em) (n.isStrong || strong) cs⟩

def unnestEmphasisList (em strong : Bool) : List Node → List Node
  | [] => []
  | c :: cs => unnestEmphasis em strong c :: unnestEmphasisList em strong cs
end

theorem unnestEmphasisList_eq_map (em strong : Bool) (cs : List Node) :
    unnestEmphasisList em strong cs = cs.map (unnestEmphasis em strong) := by
  induction cs with
  | nil => rfl
  | cons c cs ih => rw [unnestEmphasisList, ih, List.map_cons]

theorem unnestEmphasis_eq (em strong : Bool) (n : Node) :
    n.unnestEmphasis em strong =
      ⟨n.kind, if n.isNestedIn em strong then "span" else n.name, n.value, n.attrs,
        n.children.map (unnestEmphasis (n.isEmphasis || em) (n.isStrong || strong))⟩ := by
  obtain ⟨k, name, v, attrs, cs⟩ := n
  rw [unnestEmphasis, unnestEmphasisList_eq_map]

def unnestedTags : List String := ["em", "i", "strong", "b", "span"]

theorem isBlockTag_unnested : ∀ t ∈ unnestedTags, isBlockTag t = false := by
  simp only [unnestedTags, List.mem_cons, List.not_mem_nil, or_false]
  rintro t (rfl | rfl | rfl | rfl | rfl) <;> rw [isBlockTag_ascii (by simp)] <;> decide

theorem mem_unnestedTags {t : String} (h : t ∈ ["em", "i", "strong", "b"]) :
    t ∈ unnestedTags := by
  simp only [List.mem_cons, List.not_mem_nil, or_false] at h
  simp only [unnestedTags, List.mem_cons, List.not_mem_nil, or_false]
  tauto

section Fields

variable {em strong : Bool} {n : Node}

@[simp] theorem kind_unnestEmphasis : (n.unnestEmphasis em strong).kind = n.kind := by
  rw [unnestEmphasis_eq]

@[simp] theorem value_unnestEmphasis : (n.unnestEmphasis em strong).value = n.value := by
  rw [unnestEmphasis_eq]

@[simp] theorem attrs_unnestEmphasis : (n.unnestEmphasis em strong).attrs = n.attrs := by
  rw [unnestEmphasis_eq]

@[simp] theorem children_unnestEmphasis :
    (n.unnestEmphasis em strong).children =
      n.children.map (unnestEmphasis (n.isEmphasis || em) (n.isStrong || strong)) := by
  rw [unnestEmphasis_eq]

theorem name_unnestEmphasis :
    (n.unnestEmphasis em strong).name = if n.isNestedIn em strong then "span" else n.name := by
  rw [unnestEmphasis_eq]

@[simp] theorem isElement_unnestEmphasis :
    (n.unnestEmphasis em strong).isElement = n.isElement := by
  rw [isElement, isElement, kind_unnestEmphasis]

@[simp] theorem isText_unnestEmphasis : (n.unnestEmphasis em strong).isText = n.isText := by
  rw [isText, isText, kind_unnestEmphasis]

@[simp] theorem isBlankText_unnestEmphasis :
    (n.unnestEmphasis em strong).isBlankText = n.isBlankText := by
  rw [isBlankText, isBlankText, isText_unnestEmphasis, value_unnestEmphasis]

@[simp] theorem attr?_unnestEmphasis (name : String) :
    (n.unnestEmphasis em strong).attr? name = n.attr? name := by
  rw [attr?, attr?, attrs_unnestEmphasis]

@[simp] theorem hasAttr_unnestEmphasis (name : String) :
    (n.unnestEmphasis em strong).hasAttr name = n.hasAttr name := by
  rw [hasAttr, hasAttr, attr?_unnestEmphasis]

theorem name_mem_of_isNestedIn (h : n.isNestedIn em strong = true) :
    n.isElement = true ∧ n.name ∈ ["em", "i", "strong", "b"] := by
  simp only [isNestedIn, isEmphasis, isStrong, isTag, Bool.or_eq_true, Bool.and_eq_true,
    beq_iff_eq] at h
  rcases h with ⟨-, ⟨hel, h⟩ | ⟨hel, h⟩⟩ | ⟨-, ⟨hel, h⟩ | ⟨hel, h⟩⟩ <;> simp [hel, h]

theorem name_unnestEmphasis_congr {β : Type} (f : String → β)
    (hf : ∀ t ∈ ["em", "i", "strong", "b"], f t = f "span") :
    f (n.unnestEmphasis em strong).name = f n.name := by
  rw [name_unnestEmphasis]
  split
  · next hn => exact (hf _ (name_mem_of_isNestedIn hn).2).symm
  · rfl

theorem name_unnestEmphasis_of_not (h : n.isNestedIn em strong = false) :
    (n.unnestEmphasis em strong).name = n.name := by
  rw [name_unnestEmphasis, if_neg (by rw [h]; exact Bool.false_ne_true)]

theorem isTag_unnestEmphasis {t : String} (ht : t ∉ unnestedTags) :
    (n.unnestEmphasis em strong).isTag t = n.isTag t := by
  have hspan : ("span" == t) = false :=
    beq_eq_false_iff_ne.2 fun h => ht (h ▸ by simp [unnestedTags])
  rw [isTag, isTag, isElement_unnestEmphasis]
  congr 1
  refine name_unnestEmphasis_congr (· == t) fun t' ht' => ?_
  rw [hspan, beq_eq_false_iff_ne]
  rintro rfl
  exact ht (mem_unnestedTags ht')

theorem any_isTag_unnestEmphasis {tags : List String} (h : ∀ t ∈ tags, t ∉ unnestedTags) :
    tags.any (n.unnestEmphasis em strong).isTag = tags.any n.isTag := by
  induction tags with
  | nil => rfl
  | cons t ts ih =>
    rw [List.any_cons, List.any_cons, isTag_unnestEmphasis (h t List.mem_cons_self),
      ih fun t' ht' => h t' (List.mem_cons_of_mem t ht')]

theorem isBlockElement_unnestEmphasis :
    (n.unnestEmphasis em strong).isBlockElement = n.isBlockElement := by
  rw [isBlockElement, isBlockElement, isElement_unnestEmphasis]
  congr 1
  refine name_unnestEmphasis_congr isBlockTag fun t ht => ?_
  rw [isBlockTag_unnested t (mem_unnestedTags ht),
    isBlockTag_unnested "span" (by simp [unnestedTags])]

theorem isStrong_eq_false_of_isEmphasis (h : n.isEmphasis = true) : n.isStrong = false := by
  simp only [isStrong, isEmphasis, isTag, Bool.or_eq_true, Bool.and_eq_true, beq_iff_eq] at h ⊢
  rcases h with ⟨-, h⟩ | ⟨-, h⟩ <;> simp [h]

theorem isEmphasis_eq_false_of_isStrong (h : n.isStrong = true) : n.isEmphasis = false := by
  simp only [isStrong, isEmphasis, isTag, Bool.or_eq_true, Bool.and_eq_true, beq_iff_eq] at h ⊢
  rcases h with ⟨-, h⟩ | ⟨-, h⟩ <;> simp [h]

theorem isEmphasis_unnestEmphasis_false :
    (n.unnestEmphasis false strong).isEmphasis = n.isEmphasis := by
  by_cases hn : n.isNestedIn false strong = true
  · -- below no emphasis only strong emphasis is renamed, and it was no emphasis either
    have hs : n.isStrong = true := by
      simp only [isNestedIn, Bool.false_and, Bool.false_or, Bool.and_eq_true] at hn
      exact hn.2
    rw [isEmphasis_eq_false_of_isStrong hs, isEmphasis, isTag, isTag, name_unnestEmphasis,
      if_pos hn]
    simp
  · rw [isEmphasis, isEmphasis, isTag, isTag, isTag, isTag, isElement_unnestEmphasis,
      name_unnestEmphasis_of_not (Bool.eq_false_iff.2 hn)]

theorem isStrong_unnestEmphasis_false :
    (n.unnestEmphasis em false).isStrong = n.isStrong := by
  by_cases hn : n.isNestedIn em false = true
  · -- below no strong emphasis only emphasis is renamed, and it was not strong either
    have he : n.isEmphasis = true := by
      simp only [isNestedIn, Bool.false_and, Bool.or_false, Bool.and_eq_true] at hn
      exact hn.2
    rw [isStrong_eq_false_of_isEmphasis he, isStrong, isTag, isTag, name_unnestEmphasis,
      if_pos hn]
    simp
  · rw [isStrong, isStrong, isTag, isTag, isTag, isTag, isElement_unnestEmphasis,
      name_unnestEmphasis_of_not (Bool.eq_false_iff.2 hn)]

end Fields

/-- `n'` is `n` with its nested emphasis made a span, below some emphasis or none. -/
def Unnests (n n' : Node) : Prop := ∃ em strong, n' = n.unnestEmphasis em strong

mutual
theorem textContent_unnestEmphasis :
    ∀ (em strong : Bool) (n : Node), (n.unnestEmphasis em strong).textContent = n.textContent
  | em, strong, ⟨k, name, v, attrs, cs⟩ => by
    rw [unnestEmphasis]
    cases k with
    | text => rfl
    | comment => rfl
    | element => exact textContents_unnestEmphasisList _ _ cs
    | document => exact textContents_unnestEmphasisList _ _ cs
    | fragment => exact textContents_unnestEmphasisList _ _ cs

theorem textContents_unnestEmphasisList : ∀ (em strong : Bool) (cs : List Node),
    textContents (unnestEmphasisList em strong cs) = textContents cs
  | _, _, [] => rfl
  | em, strong, c :: cs => by
    rw [unnestEmphasisList, textContents, textContents, textContent_unnestEmphasis,
      textContents_unnestEmphasisList]
end

theorem innerText_unnestEmphasis (em strong : Bool) (n : Node) :
    (n.unnestEmphasis em strong).innerText = n.innerText := by
  rw [innerText, innerText, textContent_unnestEmphasis]

mutual
theorem maxDepth_unnestEmphasis :
    ∀ (em strong : Bool) (n : Node), (n.unnestEmphasis em strong).maxDepth = n.maxDepth
  | em, strong, ⟨k, name, v, attrs, cs⟩ => by
    rw [unnestEmphasis, maxDepth, maxDepth, maxDepths_unnestEmphasisList]

theorem maxDepths_unnestEmphasisList : ∀ (em strong : Bool) (cs : List Node),
    maxDepths (unnestEmphasisList em strong cs) = maxDepths cs
  | _, _, [] => rfl
  | em, strong, c :: cs => by
    rw [unnestEmphasisList, maxDepths, maxDepths, maxDepth_unnestEmphasis,
      maxDepths_unnestEmphasisList]
end

section Below

variable {p : Node → Bool}

mutual
theorem findDescendant?_unnestEmphasis (hp : ∀ em strong m, p (m.unnestEmphasis em strong) = p m) :
    ∀ (em strong : Bool) (n : Node),
      Option.Rel Unnests (n.findDescendant? p) ((n.unnestEmphasis em strong).findDescendant? p)
  | em, strong, ⟨k, name, v, attrs, cs⟩ => by
    rw [unnestEmphasis]
    exact findIn?_unnestEmphasisList hp _ _ cs

theorem findIn?_unnestEmphasisList (hp : ∀ em strong m, p (m.unnestEmphasis em strong) = p m) :
    ∀ (em strong : Bool) (cs : List Node),
      Option.Rel Unnests (findIn? p cs) (findIn? p (unnestEmphasisList em strong cs))
  | _, _, [] => .none
  | em, strong, c :: cs => by
    rw [unnestEmphasisList, findIn?, findIn?, hp]
    by_cases hc : p c = true
    · rw [if_pos hc, if_pos hc]
      exact .some ⟨em, strong, rfl⟩
    · rw [if_neg hc, if_neg hc]
      exact optionRel_or (findDescendant?_unnestEmphasis hp em strong c)
        (findIn?_unnestEmphasisList hp em strong cs)
end

mutual
theorem firstPath?_unnestEmphasis (hp : ∀ em strong m, p (m.unnestEmphasis em strong) = p m) :
    ∀ (em strong : Bool) (n : Node), (n.unnestEmphasis em strong).firstPath? p = n.firstPath? p
  | em, strong, ⟨k, name, v, attrs, cs⟩ => by
    rw [unnestEmphasis]
    exact firstPathIn?_unnestEmphasisList hp _ _ 0 cs

theorem firstPathIn?_unnestEmphasisList (hp : ∀ em strong m, p (m.unnestEmphasis em strong) = p m) :
    ∀ (em strong : Bool) (i : Nat) (cs : List Node),
      firstPathIn? p i (unnestEmphasisList em strong cs) = firstPathIn? p i cs
  | _, _, _, [] => rfl
  | em, strong, i, c :: cs => by
    rw [unnestEmphasisList, firstPathIn?, firstPathIn?, hp, firstPath?_unnestEmphasis hp,
      firstPathIn?_unnestEmphasisList hp]
end

end Below

theorem hasDescendant_unnestEmphasis {t : String} (ht : t ∉ unnestedTags) (em strong : Bool)
    (n : Node) : (n.unnestEmphasis em strong).hasDescendant t = n.hasDescendant t := by
  have hrel := findDescendant?_unnestEmphasis (p := (·.isTag t))
    (fun _ _ _ => isTag_unnestEmphasis ht) em strong n
  rw [hasDescendant, hasDescendant, optionRel_isSome hrel]

theorem rendersInline_unnestEmphasis (em strong : Bool) (n : Node) :
    rendersInline (n.unnestEmphasis em strong) = rendersInline n := by
  have himg : "img" ∉ unnestedTags := by decide
  rw [rendersInline, rendersInline, isTag_unnestEmphasis himg, hasDescendant_unnestEmphasis himg,
    innerText_unnestEmphasis]

theorem hasSpans_unnestEmphasis (em strong : Bool) (n : Node) :
    hasSpans (n.unnestEmphasis em strong) = hasSpans n := by
  have hrel := findDescendant?_unnestEmphasis
    (p := fun d => d.hasAttr "colspan" || d.hasAttr "rowspan")
    (fun _ _ _ => by rw [hasAttr_unnestEmphasis, hasAttr_unnestEmphasis]) em strong n
  rw [hasSpans, hasSpans, optionRel_isSome hrel]

theorem trailingContent_unnestEmphasis (em strong : Bool) (cs : List Node) :
    trailingContent (cs.map (unnestEmphasis em strong)) = trailingContent cs := by
  have hbr : "br" ∉ unnestedTags := by decide
  induction cs with
  | nil => rfl
  | cons c cs ih =>
    have hblock : isBlockTag (c.unnestEmphasis em strong).name = isBlockTag c.name :=
      name_unnestEmphasis_congr isBlockTag fun t ht => by
        rw [isBlockTag_unnested t (mem_unnestedTags ht),
          isBlockTag_unnested "span" (by simp [unnestedTags])]
    rw [List.map_cons, trailingContent, trailingContent, isText_unnestEmphasis,
      isBlankText_unnestEmphasis, isTag_unnestEmphasis hbr, isElement_unnestEmphasis, hblock,
      rendersInline_unnestEmphasis, ih]

theorem normalizeChild_unnestEmphasis {inPre parentIsBlock : Bool} {blocks : List Bool} {c : Node}
    {i : Nat} (em strong : Bool)
    (ih : c.isElement = true → ∀ inPre', (c.unnestEmphasis em strong).normalizeWhitespace inPre' =
      (c.normalizeWhitespace inPre').unnestEmphasis em strong) :
    (c.unnestEmphasis em strong).normalizeChild inPre parentIsBlock blocks i =
      (c.normalizeChild inPre parentIsBlock blocks i).unnestEmphasis em strong := by
  have hpre : "pre" ∉ unnestedTags := by decide
  unfold normalizeChild
  rw [isText_unnestEmphasis, isElement_unnestEmphasis, isTag_unnestEmphasis hpre]
  split
  · split
    · rfl
    · rw [value_unnestEmphasis, unnestEmphasis_eq, unnestEmphasis_eq]
      rfl
  · split
    · next hel => exact ih hel _
    · rfl

theorem normalizeWhitespace_unnestEmphasis (em strong inPre : Bool) (n : Node) :
    (n.unnestEmphasis em strong).normalizeWhitespace inPre =
      (n.normalizeWhitespace inPre).unnestEmphasis em strong := by
  have hblocks : (n.children.map (unnestEmphasis (n.isEmphasis || em) (n.isStrong || strong))).map
      isBlockElement = n.children.map isBlockElement := by
    rw [List.map_map]
    exact List.map_congr_left fun c _ => isBlockElement_unnestEmphasis
  rw [normalizeWhitespace_eq_mk, unnestEmphasis_eq em strong (n.normalizeWhitespace inPre),
    normalizeWhitespace_eq_mk inPre n]
  congr 1
  · exact kind_unnestEmphasis
  · rw [name_unnestEmphasis]
    rfl
  · exact value_unnestEmphasis
  · exact attrs_unnestEmphasis
  · -- each child is normalized in its place, with the same neighbours to trim against
    show _ = (n.normalizeWhitespace inPre).children.map
      (unnestEmphasis (n.isEmphasis || em) (n.isStrong || strong))
    rw [normalizeWhitespace_children, normalizeWhitespace_children, children_unnestEmphasis,
      isBlockElement_unnestEmphasis, hblocks, List.zipIdx_map, List.map_map, List.map_map]
    refine List.map_congr_left fun ⟨c, i⟩ hci => ?_
    have hc : c ∈ n.children := List.fst_mem_of_mem_zipIdx hci
    exact normalizeChild_unnestEmphasis _ _ fun _ inPre' =>
      normalizeWhitespace_unnestEmphasis _ _ inPre' c
termination_by sizeOf n
decreasing_by exact Node.sizeOf_lt_of_mem_children hc

theorem normalizeTree_unnestEmphasis (em strong : Bool) (n : Node) :
    (n.unnestEmphasis em strong).normalizeTree = n.normalizeTree.unnestEmphasis em strong := by
  have hpre : "pre" ∉ unnestedTags := by decide
  rw [normalizeTree, normalizeTree, isTag_unnestEmphasis hpre, normalizeWhitespace_unnestEmphasis]

end Node

def emphasisAbove (path : List Step) : Bool := path.any (·.parent.isEmphasis)

def strongAbove (path : List Step) : Bool := path.any (·.parent.isStrong)

def unnestPath : List Step → List Step
  | [] => []
  | st :: rest =>
    ⟨st.parent.unnestEmphasis (emphasisAbove rest) (strongAbove rest), st.index⟩ :: unnestPath rest

theorem emphasisAbove_unnestPath (path : List Step) :
    emphasisAbove (unnestPath path) = emphasisAbove path := by
  induction path with
  | nil => rfl
  | cons st rest ih =>
    show ((st.parent.unnestEmphasis (emphasisAbove rest) (strongAbove rest)).isEmphasis ||
        emphasisAbove (unnestPath rest)) = (st.parent.isEmphasis || emphasisAbove rest)
    rw [ih]
    cases emphasisAbove rest with
    | true => rw [Bool.or_true, Bool.or_true]
    | false => rw [Node.isEmphasis_unnestEmphasis_false]

theorem strongAbove_unnestPath (path : List Step) :
    strongAbove (unnestPath path) = strongAbove path := by
  induction path with
  | nil => rfl
  | cons st rest ih =>
    show ((st.parent.unnestEmphasis (emphasisAbove rest) (strongAbove rest)).isStrong ||
        strongAbove (unnestPath rest)) = (st.parent.isStrong || strongAbove rest)
    rw [ih]
    cases strongAbove rest with
    | true => rw [Bool.or_true, Bool.or_true]
    | false => rw [Node.isStrong_unnestEmphasis_false]

theorem any_unnestPath {f : Node → Bool} (hf : ∀ em strong m, f (m.unnestEmphasis em strong) = f m)
    (path : List Step) : (unnestPath path).any (f ·.parent) = path.any (f ·.parent) := by
  induction path with
  | nil => rfl
  | cons st rest ih => rw [unnestPath, List.any_cons, List.any_cons, hf, ih]

theorem countP_unnestPath {f : Node → Bool}
    (hf : ∀ em strong m, f (m.unnestEmphasis em strong) = f m) (path : List Step) :
    (unnestPath path).countP (f ·.parent) = path.countP (f ·.parent) := by
  induction path with
  | nil => rfl
  | cons st rest ih => rw [unnestPath, List.countP_cons, List.countP_cons, hf, ih]

theorem map_index_unnestPath (path : List Step) :
    (unnestPath path).map (·.index) = path.map (·.index) := by
  induction path with
  | nil => rfl
  | cons st rest ih => rw [unnestPath, List.map_cons, List.map_cons, ih]

namespace Cursor

/-- The same place in the tree with its nested emphasis made a span. -/
def unnest (c : Cursor) : Cursor :=
  ⟨c.node.unnestEmphasis (emphasisAbove c.path) (strongAbove c.path), unnestPath c.path⟩

def isNestedEmphasis (c : Cursor) : Bool :=
  c.node.isNestedIn (emphasisAbove c.path) (strongAbove c.path)

theorem unnest_root (n : Node) : (root n).unnest = root (n.unnestEmphasis false false) := rfl

section Queries

variable {c : Cursor} {t : String}

theorem tag_unnest (hn : c.isNestedEmphasis = false) : c.unnest.tag = c.tag :=
  Node.name_unnestEmphasis_of_not hn

theorem tag_unnest_of_nested (hn : c.isNestedEmphasis = true) : c.unnest.tag = "span" := by
  rw [tag, unnest, Node.name_unnestEmphasis]
  exact if_pos hn

theorem isTag_unnest (ht : t ∉ Node.unnestedTags) : c.unnest.isTag t = c.isTag t :=
  Node.isTag_unnestEmphasis ht

theorem hasDescendant_unnest (ht : t ∉ Node.unnestedTags) :
    c.unnest.hasDescendant t = c.hasDescendant t :=
  Node.hasDescendant_unnestEmphasis ht _ _ _

theorem innerText_unnest : c.unnest.innerText = c.innerText := Node.innerText_unnestEmphasis _ _ _

theorem hasAncestor_unnest (ht : t ∉ Node.unnestedTags) :
    c.unnest.hasAncestor t = c.hasAncestor t :=
  any_unnestPath (f := (·.isTag t)) (fun _ _ _ => Node.isTag_unnestEmphasis ht) c.path

theorem countAncestors_unnest (ht : t ∉ Node.unnestedTags) :
    c.unnest.countAncestors t = c.countAncestors t :=
  countP_unnestPath (f := (·.isTag t)) (fun _ _ _ => Node.isTag_unnestEmphasis ht) c.path

end Queries

theorem children_unnest (c : Cursor) : c.unnest.children = c.children.map unnest := by
  simp only [children, unnest, Node.children_unnestEmphasis, List.zipIdx_map, List.map_map]
  rfl

theorem ancestorsOn_unnestPath (path : List Step) :
    ancestorsOn (unnestPath path) = (ancestorsOn path).map unnest := by
  induction path with
  | nil => rfl
  | cons st rest ih =>
    rw [unnestPath, ancestorsOn, ancestorsOn, List.map_cons, ih]
    rfl

theorem ancestors_unnest (c : Cursor) : c.unnest.ancestors = c.ancestors.map unnest :=
  ancestorsOn_unnestPath c.path

theorem any_ancestorsOn (f : Node → Bool) (path : List Step) :
    (ancestorsOn path).any (f ·.node) = path.any (f ·.parent) := by
  induction path with
  | nil => rfl
  | cons st rest ih => rw [ancestorsOn, List.any_cons, List.any_cons, ih]

theorem parent?_unnest (c : Cursor) : c.unnest.parent? = c.parent?.map unnest := by
  rw [parent?, parent?, ancestors_unnest, List.head?_map]

theorem ancestor?_unnest {t : String} (ht : t ∉ Node.unnestedTags) (c : Cursor) :
    c.unnest.ancestor? t = (c.ancestor? t).map unnest := by
  rw [ancestor?, ancestor?, ancestors_unnest, List.find?_map]
  congr 2
  funext a
  exact isTag_unnest ht

theorem siblings_unnest (c : Cursor) :
    c.unnest.siblings =
      c.siblings.map (Node.unnestEmphasis (emphasisAbove c.path) (strongAbove c.path)) := by
  obtain ⟨n, path⟩ := c
  cases path with
  | nil => rfl
  | cons st rest => exact Node.children_unnestEmphasis

theorem index_unnest (c : Cursor) : c.unnest.index = c.index := by
  obtain ⟨n, path⟩ := c
  cases path <;> rfl

theorem precedingSiblings_unnest (c : Cursor) :
    c.unnest.precedingSiblings =
      c.precedingSiblings.map
        (Node.unnestEmphasis (emphasisAbove c.path) (strongAbove c.path)) := by
  rw [precedingSiblings, precedingSiblings, siblings_unnest, index_unnest, List.map_take]

theorem followingSiblings_unnest (c : Cursor) :
    c.unnest.followingSiblings =
      c.followingSiblings.map
        (Node.unnestEmphasis (emphasisAbove c.path) (strongAbove c.path)) := by
  rw [followingSiblings, followingSiblings, siblings_unnest, index_unnest, List.map_drop]

theorem nextSibling?_unnest (c : Cursor) :
    c.unnest.nextSibling? =
      c.nextSibling?.map (Node.unnestEmphasis (emphasisAbove c.path) (strongAbove c.path)) := by
  rw [nextSibling?, nextSibling?, siblings_unnest, index_unnest, List.getElem?_map]

theorem isFirstContentChild_unnest (c : Cursor) :
    c.unnest.isFirstContentChild = c.isFirstContentChild := by
  rw [isFirstContentChild, isFirstContentChild, precedingSiblings_unnest, List.all_map]
  congr 1
  funext m
  exact Node.isBlankText_unnestEmphasis

theorem isLastContentChild_unnest (c : Cursor) :
    c.unnest.isLastContentChild = c.isLastContentChild := by
  rw [isLastContentChild, isLastContentChild, followingSiblings_unnest, List.all_map]
  congr 1
  funext m
  exact Node.isBlankText_unnestEmphasis

theorem parentTag?_unnest (c : Cursor) :
    c.unnest.parentTag? = c.parentTag? ∨
      (∃ t ∈ ["em", "i", "strong", "b"], c.parentTag? = some t) ∧
        c.unnest.parentTag? = some "span" := by
  obtain ⟨n, path⟩ := c
  cases path with
  | nil => exact .inl rfl
  | cons st rest =>
    show some (st.parent.unnestEmphasis _ _).name = some st.parent.name ∨
      (∃ t ∈ ["em", "i", "strong", "b"], some st.parent.name = some t) ∧
        some (st.parent.unnestEmphasis _ _).name = some "span"
    rw [Node.name_unnestEmphasis]
    split
    · next h => exact .inr ⟨⟨_, (Node.name_mem_of_isNestedIn h).2, rfl⟩, rfl⟩
    · exact .inl rfl

theorem parentTag?_unnest_congr {β : Type} (g : Option String → β)
    (hg : ∀ t ∈ ["em", "i", "strong", "b"], g (some t) = g (some "span")) (c : Cursor) :
    g c.unnest.parentTag? = g c.parentTag? := by
  rcases parentTag?_unnest c with h | ⟨⟨t, ht, h1⟩, h2⟩
  · rw [h]
  · rw [h1, h2, hg t ht]

theorem parentTag?_unnest_eq_some_iff {t : String} (ht : t ∉ Node.unnestedTags) (c : Cursor) :
    c.unnest.parentTag? = some t ↔ c.parentTag? = some t := by
  rcases parentTag?_unnest c with h | ⟨⟨t', ht', h1⟩, h2⟩
  · rw [h]
  · rw [h1, h2, Option.some.injEq, Option.some.injEq]
    constructor
    · rintro rfl
      exact absurd (by simp [Node.unnestedTags]) ht
    · rintro rfl
      exact absurd (Node.mem_unnestedTags ht') ht

theorem parentTag?_unnest_beq {t : String} (ht : t ∉ Node.unnestedTags) (c : Cursor) :
    (c.unnest.parentTag? == some t) = (c.parentTag? == some t) :=
  Bool.eq_iff_iff.2 (by simpa only [beq_iff_eq] using parentTag?_unnest_eq_some_iff ht c)

theorem ancestors_any_emphasis (c : Cursor) :
    c.ancestors.any (fun a => ["em", "i"].any a.isTag) = emphasisAbove c.path := by
  have hkind : (fun a : Cursor => ["em", "i"].any a.isTag) = (·.node.isEmphasis) := by
    funext a
    simp [isTag, Node.isEmphasis]
  rw [hkind]
  exact any_ancestorsOn Node.isEmphasis c.path

theorem ancestors_any_strong (c : Cursor) :
    c.ancestors.any (fun a => ["strong", "b"].any a.isTag) = strongAbove c.path := by
  have hkind : (fun a : Cursor => ["strong", "b"].any a.isTag) = (·.node.isStrong) := by
    funext a
    simp [isTag, Node.isStrong]
  rw [hkind]
  exact any_ancestorsOn Node.isStrong c.path

theorem unnest_node_ne_of_nested {c : Cursor} (hn : c.isNestedEmphasis = true) :
    c.unnest.node ≠ c.node := by
  intro h
  have hspan : c.node.name = "span" := by rw [← h]; exact tag_unnest_of_nested hn
  have hmem := (Node.name_mem_of_isNestedIn hn).2
  rw [hspan] at hmem
  simp at hmem

end Cursor

section Rules

variable (o : Options) (c : Cursor)

theorem Node.contentChildren_unnestEmphasis (em strong : Bool) (n : Node) :
    (n.unnestEmphasis em strong).contentChildren =
      n.contentChildren.map (Node.unnestEmphasis (n.isEmphasis || em) (n.isStrong || strong)) := by
  rw [Node.contentChildren, Node.contentChildren, Node.children_unnestEmphasis, List.filter_map]
  congr 2
  funext m
  simp only [Function.comp_apply, Node.isBlankText_unnestEmphasis]

theorem textMarkdown_unnest : textMarkdown o c.unnest = textMarkdown o c := by
  have hspan : blankTextParents.contains "span" = false := by decide
  rw [textMarkdown, textMarkdown, Cursor.unnest, Node.value_unnestEmphasis,
    Node.isBlankText_unnestEmphasis]
  rcases Cursor.parentTag?_unnest c with h | ⟨⟨t, ht, h1⟩, h2⟩
  · rw [← h]
    rfl
  · -- a renamed parent is emphasis in the tree and a span in the rewrite, and below neither is
    -- blank text dropped
    have hdrop : blankTextParents.contains t = false := by
      simp only [List.mem_cons, List.not_mem_nil, or_false] at ht
      rcases ht with rfl | rfl | rfl | rfl <;> decide
    rw [Cursor.unnest] at h2
    rw [h1, h2]
    simp only [hspan, hdrop]

theorem isCellTag_parentTag?_unnest : isCellTag c.unnest.parentTag? = isCellTag c.parentTag? :=
  Cursor.parentTag?_unnest_congr isCellTag (by simp [isCellTag]) c

theorem cellPrefix_unnest : cellPrefix c.unnest = cellPrefix c := by
  rw [cellPrefix, cellPrefix, isCellTag_parentTag?_unnest, Cursor.isFirstContentChild_unnest]

theorem cellSuffix_unnest : cellSuffix c.unnest = cellSuffix c := by
  rw [cellSuffix, cellSuffix, isCellTag_parentTag?_unnest, Cursor.isLastContentChild_unnest]

theorem listItemMarker_unnest : listItemMarker o c.unnest = listItemMarker o c := by
  have hol : "ol" ∉ Node.unnestedTags := by decide
  have hli : (c.unnest.precedingSiblings.filter (·.isTag "li")).length =
      (c.precedingSiblings.filter (·.isTag "li")).length := by
    rw [Cursor.precedingSiblings_unnest, List.filter_map, List.length_map]
    congr 2
    funext m
    exact Node.isTag_unnestEmphasis (by decide)
  simp only [listItemMarker, Cursor.parentTag?_unnest_eq_some_iff hol, hli]

theorem markerWidth_unnest : markerWidth o c.unnest = markerWidth o c := by
  rw [markerWidth, markerWidth, listItemMarker_unnest]

section Own

variable {c} (hn : c.isNestedEmphasis = false)
include hn

theorem defersShortcode_unnest : defersShortcode c.unnest = defersShortcode c := by
  rw [defersShortcode, defersShortcode, Cursor.tag_unnest hn, Cursor.hasAncestor_unnest (by decide),
    Cursor.hasAncestor_unnest (by decide)]

theorem defersToContainer_unnest : defersToContainer c.unnest = defersToContainer c := by
  have hpre : "pre" ∉ Node.unnestedTags := by decide
  have htable : "table" ∉ Node.unnestedTags := by decide
  have hquote : "blockquote" ∉ Node.unnestedTags := by decide
  simp only [defersToContainer, Cursor.tag_unnest hn, Cursor.hasAncestor_unnest hpre,
    Cursor.hasDescendant_unnest hpre, Cursor.hasDescendant_unnest htable,
    Cursor.hasDescendant_unnest hquote, Cursor.innerText_unnest, defersShortcode_unnest hn]

theorem resolveLayout_unnest : resolveLayout o c.unnest = resolveLayout o c := by
  have hpre : "pre" ∉ Node.unnestedTags := by decide
  have htable : "table" ∉ Node.unnestedTags := by decide
  have hquote : "blockquote" ∉ Node.unnestedTags := by decide
  have hlists : (c.unnest.ancestors.filter (·.isTag "li")).map (markerWidth o) =
      (c.ancestors.filter (·.isTag "li")).map (markerWidth o) := by
    rw [Cursor.ancestors_unnest, List.filter_map, List.map_map]
    have hli : ((·.isTag "li") ∘ Cursor.unnest : Cursor → Bool) = (·.isTag "li") := by
      funext a
      exact Cursor.isTag_unnest (by decide)
    rw [hli]
    congr 1
    funext a
    exact markerWidth_unnest o a
  simp only [resolveLayout, Cursor.tag_unnest hn, Cursor.hasAncestor_unnest hpre,
    Cursor.hasAncestor_unnest htable, Cursor.hasDescendant_unnest hpre,
    Cursor.hasDescendant_unnest htable, Cursor.hasDescendant_unnest hquote, Cursor.innerText_unnest,
    defersShortcode_unnest hn, Cursor.countAncestors_unnest hquote, markerWidth_unnest, hlists]

theorem trimBlock_unnest (content : String) :
    trimBlock o c.unnest content = trimBlock o c content := by
  rw [trimBlock, trimBlock, resolveLayout_unnest o hn]

theorem headingFragment_unnest (converted : String) :
    headingFragment c.unnest converted = headingFragment c converted := by
  rw [headingFragment, headingFragment, Cursor.tag_unnest hn]

end Own

theorem defersToContainer_of_nested {c : Cursor} (hn : c.isNestedEmphasis = true) :
    defersToContainer c.unnest = false ∧ defersToContainer c = false := by
  -- emphasis in the tree and a span in the rewrite, neither a paragraph nor a div
  have hname := (Node.name_mem_of_isNestedIn hn).2
  have hspan : (c.unnest.tag == "p" || c.unnest.tag == "div") = false := by
    rw [Cursor.tag_unnest_of_nested hn]
    rfl
  have htag : (c.tag == "p" || c.tag == "div") = false := by
    simp only [List.mem_cons, List.not_mem_nil, or_false] at hname
    rcases hname with h | h | h | h <;> simp [Cursor.tag, h]
  constructor
  · simp [defersToContainer, hspan]
  · simp [defersToContainer, htag]

theorem chunkerFor_unnest : chunkerFor o c.unnest = chunkerFor o c := by
  rw [chunkerFor, chunkerFor, Cursor.isTag_unnest (by decide)]

theorem titleSuffix_unnest : titleSuffix c.unnest = titleSuffix c := by
  rw [titleSuffix, titleSuffix, Cursor.unnest, Node.attr?_unnestEmphasis]

theorem linkFragment_unnest (converted : String) :
    linkFragment o c.unnest converted = linkFragment o c converted := by
  rw [linkFragment, linkFragment, titleSuffix_unnest, Cursor.unnest, Node.attr?_unnestEmphasis]

theorem imageFragment_unnest : imageFragment o c.unnest = imageFragment o c := by
  rw [imageFragment, imageFragment, titleSuffix_unnest, Cursor.unnest, Node.attr?_unnestEmphasis,
    Node.attr?_unnestEmphasis]

theorem lineBreakFragment_unnest : lineBreakFragment o c.unnest = lineBreakFragment o c := by
  have hcell : c.unnest.ancestors.any (fun a => a.isTag "td" || a.isTag "th") =
      c.ancestors.any (fun a => a.isTag "td" || a.isTag "th") := by
    rw [Cursor.ancestors_unnest, List.any_map]
    congr 1
    funext a
    simp only [Function.comp_apply, Cursor.isTag_unnest (show "td" ∉ Node.unnestedTags by decide),
      Cursor.isTag_unnest (show "th" ∉ Node.unnestedTags by decide)]
  rw [lineBreakFragment, lineBreakFragment, hcell, Cursor.followingSiblings_unnest,
    Node.trailingContent_unnestEmphasis]

theorem delimitedFragment_unnest {kind : List String} {f : Node → Bool}
    (hkind : ∀ m : Node, kind.any m.isTag = f m)
    (habove : c.unnest.ancestors.any (f ·.node) = c.ancestors.any (f ·.node))
    (hsib : c.ancestors.any (f ·.node) = false →
      ∀ m, f (m.unnestEmphasis (emphasisAbove c.path) (strongAbove c.path)) = f m)
    (delim converted : String) :
    delimitedFragment kind delim c.unnest converted = delimitedFragment kind delim c converted := by
  have hk : ∀ d : Cursor,
      d.ancestors.any (fun a => kind.any a.isTag) = d.ancestors.any (f ·.node) :=
    fun d => congrArg d.ancestors.any (funext fun a => hkind a.node)
  rw [delimitedFragment, delimitedFragment, hk, hk, habove]
  cases hnest : c.ancestors.any (f ·.node) with
  | true => simp only [Bool.or_true, if_true]
  | false =>
    rw [Cursor.nextSibling?_unnest]
    cases c.nextSibling? with
    | none => rfl
    | some m => simp only [Option.map_some, hkind, hsib hnest m]

theorem delimitedFragment_emphasis_unnest (delim converted : String) :
    delimitedFragment ["em", "i"] delim c.unnest converted =
      delimitedFragment ["em", "i"] delim c converted := by
  have habove : ∀ d : Cursor, d.ancestors.any (·.node.isEmphasis) = emphasisAbove d.path :=
    fun d => Cursor.any_ancestorsOn Node.isEmphasis d.path
  refine delimitedFragment_unnest c (f := Node.isEmphasis) (fun m => by simp [Node.isEmphasis]) ?_
    (fun h m => ?_) _ _
  · rw [habove, habove, Cursor.unnest, emphasisAbove_unnestPath]
  · rw [habove] at h
    rw [h, Node.isEmphasis_unnestEmphasis_false]

theorem delimitedFragment_strong_unnest (delim converted : String) :
    delimitedFragment ["strong", "b"] delim c.unnest converted =
      delimitedFragment ["strong", "b"] delim c converted := by
  have habove : ∀ d : Cursor, d.ancestors.any (·.node.isStrong) = strongAbove d.path :=
    fun d => Cursor.any_ancestorsOn Node.isStrong d.path
  refine delimitedFragment_unnest c (f := Node.isStrong) (fun m => by simp [Node.isStrong]) ?_
    (fun h m => ?_) _ _
  · rw [habove, habove, Cursor.unnest, strongAbove_unnestPath]
  · rw [habove] at h
    rw [h, Node.isStrong_unnestEmphasis_false]

theorem Node.nodeLanguage_unnestEmphasis (em strong : Bool) (n : Node) :
    nodeLanguage (n.unnestEmphasis em strong) = nodeLanguage n := by
  rw [nodeLanguage, nodeLanguage, Node.attr?_unnestEmphasis]

theorem codeLanguage_unnest : codeLanguage o c.unnest = codeLanguage o c := by
  have hchild : (c.unnest.node.elementChildren.find? (·.isTag "code")).bind nodeLanguage =
      (c.node.elementChildren.find? (·.isTag "code")).bind nodeLanguage := by
    simp only [Cursor.unnest, Node.elementChildren, Node.children_unnestEmphasis, List.filter_map,
      List.find?_map, Option.bind_map]
    simp only [Function.comp_def, Node.isElement_unnestEmphasis,
      Node.isTag_unnestEmphasis (show "code" ∉ Node.unnestedTags by decide),
      Node.nodeLanguage_unnestEmphasis]
  have hparent :
      c.unnest.parent?.bind (nodeLanguage ·.node) = c.parent?.bind (nodeLanguage ·.node) := by
    rw [Cursor.parent?_unnest, Option.bind_map]
    simp only [Function.comp_def, Cursor.unnest, Node.nodeLanguage_unnestEmphasis]
  have hself : nodeLanguage c.unnest.node = nodeLanguage c.node :=
    Node.nodeLanguage_unnestEmphasis _ _ _
  simp only [codeLanguage, hchild, hparent, hself]

theorem codeBlockFragment_unnest : codeBlockFragment o c.unnest = codeBlockFragment o c := by
  rw [codeBlockFragment, codeBlockFragment, Cursor.innerText_unnest, codeLanguage_unnest,
    Cursor.ancestor?_unnest (by decide)]
  cases c.ancestor? "li" with
  | none => rfl
  | some li => simp only [Option.map_some, markerWidth_unnest]

theorem tablePrefix_unnest : tablePrefix o c.unnest = tablePrefix o c := by
  have hrow : Option.Rel Node.Unnests (c.node.findDescendant? fun d : Node => d.isTag "tr")
      (c.unnest.node.findDescendant? fun d : Node => d.isTag "tr") :=
    Node.findDescendant?_unnestEmphasis (fun _ _ _ => Node.isTag_unnestEmphasis (by decide)) _ _ _
  rw [tablePrefix, tablePrefix, Cursor.hasDescendant_unnest (by decide)]
  generalize (c.unnest.node.findDescendant? fun d : Node => d.isTag "tr") = row' at hrow ⊢
  generalize (c.node.findDescendant? fun d : Node => d.isTag "tr") = row at hrow ⊢
  cases hrow with
  | none => rfl
  | some hx =>
    obtain ⟨em, strong, rfl⟩ := hx
    have htd : ∀ e s,
        ((·.isTag "td") ∘ Node.unnestEmphasis e s : Node → Bool) = (·.isTag "td") := by
      intro e s
      funext m
      exact Node.isTag_unnestEmphasis (by decide)
    simp only [Node.children_unnestEmphasis, List.filter_map, List.length_map, htd]

theorem isImplicitHeader_unnest : isImplicitHeader o c.unnest = isImplicitHeader o c := by
  have htable : ((fun x => x.1.isTag "table") ∘ Prod.map Cursor.unnest id : Cursor × Nat → Bool) =
      fun x => x.1.isTag "table" := by
    funext x
    exact Cursor.isTag_unnest (by decide)
  have hpath : ∀ k, (c.unnest.path.take k).map (·.index) = (c.path.take k).map (·.index) := by
    intro k
    rw [List.map_take, List.map_take, Cursor.unnest, map_index_unnestPath]
  have hfirst : ∀ a : Cursor,
      a.unnest.node.firstPath? (·.isTag "tr") = a.node.firstPath? (·.isTag "tr") := fun a =>
    Node.firstPath?_unnestEmphasis (p := (·.isTag "tr"))
      (fun _ _ _ => Node.isTag_unnestEmphasis (by decide)) _ _ _
  have hth : ∀ a : Cursor, a.unnest.hasDescendant "th" = a.hasDescendant "th" := fun _ =>
    Cursor.hasDescendant_unnest (by decide)
  rw [isImplicitHeader_eq_elim, isImplicitHeader_eq_elim, Cursor.ancestors_unnest, List.zipIdx_map,
    List.find?_map, htable]
  cases c.ancestors.zipIdx.find? (fun x => x.1.isTag "table") with
  | none => rfl
  | some x => simp only [Option.map_some, Option.elim_some, Prod.map_fst, Prod.map_snd, id_eq,
      hfirst, hth, hpath]

theorem rowFragment_unnest (converted : String) :
    rowFragment o c.unnest converted = rowFragment o c converted := by
  have hth : c.unnest.node.children.any (·.isTag "th") = c.node.children.any (·.isTag "th") := by
    rw [Cursor.unnest, Node.children_unnestEmphasis, List.any_map]
    congr 1
    funext m
    exact Node.isTag_unnestEmphasis (by decide)
  have hcells : (c.unnest.node.children.filter fun n => n.isTag "td" || n.isTag "th").length =
      (c.node.children.filter fun n => n.isTag "td" || n.isTag "th").length := by
    rw [Cursor.unnest, Node.children_unnestEmphasis, List.filter_map, List.length_map]
    congr 2
    funext m
    simp only [Function.comp_apply, Node.isTag_unnestEmphasis
      (show "td" ∉ Node.unnestedTags by decide),
      Node.isTag_unnestEmphasis (show "th" ∉ Node.unnestedTags by decide)]
  simp only [rowFragment, hth, hcells, isImplicitHeader_unnest]

end Rules

end HtmlMarkdown
