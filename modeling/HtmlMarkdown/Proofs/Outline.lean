import Mathlib
import HtmlMarkdown.Proofs.PlainText
import HtmlMarkdown.Proofs.TreeShape
import HtmlMarkdown.Proofs.SourceBlanks

namespace HtmlMarkdown

def outlineTags : List String := ["p", "div", "blockquote", "ul", "ol", "li"]

namespace Cursor

/-- The columns before a node's lines: two per enclosing quote and each enclosing item's marker. -/
def inset (o : Options) (c : Cursor) : Nat :=
  2 * c.countAncestors "blockquote" +
    ((c.ancestors.filter (·.isTag "li")).map (markerWidth o)).foldl (· + ·) 0

def lead (o : Options) (c : Cursor) : Nat :=
  (if c.isTag "blockquote" then 2 else 0) + (if c.isTag "li" then markerWidth o c else 0)

/-- A condition that holds of a node and of every node below it, each in its place. -/
inductive Throughout (P : Cursor → Prop) : Cursor → Prop
  | intro {c : Cursor} : P c → (∀ d ∈ c.children, Throughout P d) → Throughout P c

/-- A node of an outline, in its place: a text of letters, digits and blanks, or an outline element.
-/
structure Outlined (o : Options) (c : Cursor) : Prop where
  node : (∃ v, c.node = .text v ∧ ∀ x ∈ v.toList, x.isAlphanum ∨ isMarkupBlank x) ∨
    (c.node.isElement ∧ c.tag ∈ outlineTags)
  lists : c.isTag "ul" ∨ c.isTag "ol" → ∀ n ∈ c.node.children, n.isTag "li" ∨ n.isBlankText
  items : ∀ n ∈ c.node.children, n.isTag "li" → c.isTag "ul" ∨ c.isTag "ol"
  texts : c.node.children.IsChain fun a b => ¬(a.isText ∧ b.isText)
  quote : c.isTag "blockquote" → c.inset o + 2 ≤ lineLength
  item : c.isTag "li" → c.inset o + markerWidth o c ≤ lineLength
  words : c.node.isText → c.node.isBlankText = false →
    ∃ a ∈ c.parent?, WordsWithin (lineLength - c.inset o) a.node.textContent.toList

/-- The place of an outline node: outline elements above it, and list items directly in lists. -/
structure InOutline (c : Cursor) : Prop where
  above : ∀ st ∈ c.path, st.parent.isElement ∧ st.parent.name ∈ outlineTags
  listed : c.parentTag? = some "ul" ∨ c.parentTag? = some "ol" → c.isTag "li" ∨ c.node.isBlankText

variable {P : Cursor → Prop} {c d : Cursor}

theorem Throughout.self (h : c.Throughout P) : P c := by
  cases h with
  | intro hc _ => exact hc

theorem Throughout.of_mem_children (h : c.Throughout P) (hd : d ∈ c.children) :
    d.Throughout P := by
  cases h with
  | intro _ hch => exact hch d hd

theorem mem_children :
    d ∈ c.children ↔ ∃ i, c.node.children[i]? = some d.node ∧ d.path = ⟨c.node, i⟩ :: c.path := by
  constructor
  · intro h
    obtain ⟨⟨n, i⟩, hm, rfl⟩ := List.mem_map.1 h
    exact ⟨i, List.mem_zipIdx_iff_getElem?.1 hm, rfl⟩
  · rintro ⟨i, hi, hp⟩
    refine List.mem_map.2 ⟨(d.node, i), List.mem_zipIdx_iff_getElem?.2 hi, ?_⟩
    obtain ⟨n, path⟩ := d
    dsimp only at hp ⊢
    rw [hp]

theorem map_node_children (c : Cursor) : c.children.map node = c.node.children := by
  simp only [children, List.map_map]
  exact List.zipIdx_map_fst 0 c.node.children

theorem exists_mem_children {n : Node} (hn : n ∈ c.node.children) : ∃ d ∈ c.children, d.node = n :=
  List.mem_map.1 (c.map_node_children ▸ hn)

section Child

variable (hd : d ∈ c.children)
include hd

theorem ancestors_of_mem_children : d.ancestors = c :: c.ancestors := by
  obtain ⟨i, -, hp⟩ := mem_children.1 hd
  rw [ancestors, hp]
  rfl

theorem parent?_of_mem_children : d.parent? = some c := by
  rw [parent?, ancestors_of_mem_children hd]
  rfl

theorem parentTag?_of_mem_children : d.parentTag? = some c.tag := by
  obtain ⟨i, -, hp⟩ := mem_children.1 hd
  rw [parentTag?, hp]
  rfl

theorem countAncestors_of_mem_children (t : String) :
    d.countAncestors t = c.countAncestors t + if c.isTag t then 1 else 0 := by
  obtain ⟨i, -, hp⟩ := mem_children.1 hd
  rw [countAncestors, hp, List.countP_cons]
  rfl

end Child

theorem inset_eq (o : Options) (c : Cursor) :
    c.inset o = 2 * c.countAncestors "blockquote" +
      ((c.ancestors.filter (·.isTag "li")).map (markerWidth o)).sum := by
  rw [inset, List.sum_eq_foldl_nat]

theorem inset_of_mem_children (o : Options) (hd : d ∈ c.children) :
    d.inset o = c.inset o + c.lead o := by
  rw [inset_eq, inset_eq, lead, countAncestors_of_mem_children hd,
    ancestors_of_mem_children hd, List.filter_cons]
  split <;> split <;> simp_all <;> omega

theorem ancestorsOn_map_shape (path : List Step) :
    ancestorsOn (path.map fun st => ⟨st.parent.shape, st.index⟩) = (ancestorsOn path).map shape := by
  induction path with
  | nil => rfl
  | cons st path ih => simp only [List.map_cons, ancestorsOn, ih]; rfl

theorem ancestors_shape (c : Cursor) : c.shape.ancestors = c.ancestors.map shape :=
  ancestorsOn_map_shape c.path

theorem countAncestors_shape (c : Cursor) (t : String) :
    c.shape.countAncestors t = c.countAncestors t := by
  simp [countAncestors, shape, List.countP_map, Function.comp_def]

theorem precedingSiblings_shape (c : Cursor) :
    c.shape.precedingSiblings = c.precedingSiblings.map Node.shape := by
  obtain ⟨n, path⟩ := c
  cases path with
  | nil => rfl
  | cons st path => simp [precedingSiblings, siblings, index, shape, List.map_take]

theorem markerWidth_shape (o : Options) (c : Cursor) : markerWidth o c.shape = markerWidth o c := by
  simp [markerWidth, listItemMarker, precedingSiblings_shape, List.filter_map,
    Function.comp_def]

theorem inset_shape (o : Options) (c : Cursor) : c.shape.inset o = c.inset o := by
  simp [inset_eq, countAncestors_shape, ancestors_shape, List.filter_map, Function.comp_def,
    markerWidth_shape]

end Cursor

/-- The tree with each text's blank runs collapsed and its ends trimmed, as between blocks. -/
def Node.trimTexts (n : Node) : Node :=
  { n with
    value := if n.isText then normalizeValue n.value true true else n.value
    children := n.children.attach.map fun ⟨c, _⟩ => c.trimTexts }
termination_by sizeOf n
decreasing_by exact Node.sizeOf_lt_of_mem_children ‹_›

namespace Node

variable (n : Node)

@[simp] theorem trimTexts_kind : n.trimTexts.kind = n.kind := by rw [trimTexts]

@[simp] theorem trimTexts_name : n.trimTexts.name = n.name := by rw [trimTexts]

@[simp] theorem trimTexts_attrs : n.trimTexts.attrs = n.attrs := by rw [trimTexts]

theorem trimTexts_value :
    n.trimTexts.value = if n.isText then normalizeValue n.value true true else n.value := by
  rw [trimTexts]

@[simp] theorem trimTexts_children : n.trimTexts.children = n.children.map trimTexts := by
  rw [trimTexts]
  exact (List.map_subtype (g := trimTexts) fun _ _ => rfl).trans (by rw [List.unattach_attach])

theorem trimTexts_eq : n.trimTexts = ⟨n.kind, n.name,
    if n.isText then normalizeValue n.value true true else n.value, n.attrs,
    n.children.map trimTexts⟩ := by
  rw [← trimTexts_value, ← trimTexts_children]
  rw [trimTexts]

@[simp] theorem isElement_trimTexts : n.trimTexts.isElement = n.isElement := by simp [isElement]

@[simp] theorem isText_trimTexts : n.trimTexts.isText = n.isText := by simp [isText]

@[simp] theorem isTag_trimTexts (t : String) : n.trimTexts.isTag t = n.isTag t := by simp [isTag]

theorem shape_trimTexts (n : Node) : n.trimTexts.shape = n.shape := by
  rw [shape_eq n.trimTexts, shape_eq n]
  simp only [trimTexts_kind, trimTexts_name, trimTexts_attrs, trimTexts_children, List.map_map,
    Node.mk.injEq, true_and]
  refine ⟨?_, List.map_congr_left fun c hc => ?_⟩
  · rw [trimTexts_value]
    split
    · exact solidText_normalizeValue _ _ _
    · rfl
  · have := Node.sizeOf_lt_of_mem_children hc
    exact shape_trimTexts c
termination_by sizeOf n

@[simp] theorem isBlankText_trimTexts : n.trimTexts.isBlankText = n.isBlankText := by
  rw [← isBlankText_shape, shape_trimTexts, isBlankText_shape]

end Node

def Cursor.trimTexts (c : Cursor) : Cursor :=
  ⟨c.node.trimTexts, c.path.map fun st => ⟨st.parent.trimTexts, st.index⟩⟩

namespace Cursor

variable (c : Cursor)

@[simp] theorem trimTexts_node : c.trimTexts.node = c.node.trimTexts := rfl

theorem root_trimTexts (n : Node) : (root n).trimTexts = root n.trimTexts := rfl

theorem children_trimTexts : c.trimTexts.children = c.children.map trimTexts := by
  simp only [children, trimTexts, Node.trimTexts_children, List.zipIdx_map, List.map_map]
  rfl

theorem shape_trimTexts : c.trimTexts.shape = c.shape := by
  simp only [shape, trimTexts, Node.shape_trimTexts, List.map_map, Function.comp_def]

@[simp] theorem tag_trimTexts : c.trimTexts.tag = c.tag := by
  rw [← tag_shape, shape_trimTexts, tag_shape]

@[simp] theorem isTag_trimTexts (t : String) : c.trimTexts.isTag t = c.isTag t := by
  rw [← isTag_shape, shape_trimTexts, isTag_shape]

@[simp] theorem parentTag?_trimTexts : c.trimTexts.parentTag? = c.parentTag? := by
  rw [← parentTag?_shape, shape_trimTexts, parentTag?_shape]

@[simp] theorem hasAncestor_trimTexts (t : String) : c.trimTexts.hasAncestor t = c.hasAncestor t := by
  rw [← hasAncestor_shape, shape_trimTexts, hasAncestor_shape]

@[simp] theorem inset_trimTexts (o : Options) : c.trimTexts.inset o = c.inset o := by
  rw [← inset_shape, shape_trimTexts, inset_shape]

@[simp] theorem markerWidth_trimTexts (o : Options) : markerWidth o c.trimTexts = markerWidth o c := by
  rw [← markerWidth_shape, shape_trimTexts, markerWidth_shape]

@[simp] theorem lead_trimTexts (o : Options) : c.trimTexts.lead o = c.lead o := by
  simp [lead]

@[simp] theorem hasDescendant_trimTexts (t : String) :
    c.trimTexts.hasDescendant t = c.hasDescendant t := by
  have hp : ∀ m : Node, (m.shape.isTag t) = m.isTag t := fun m => Node.isTag_shape m t
  simp only [hasDescendant, Node.hasDescendant, trimTexts_node]
  rw [← Node.isSome_findDescendant?_shape hp, Node.shape_trimTexts,
    Node.isSome_findDescendant?_shape hp]

theorem filter_children_trimTexts :
    c.trimTexts.children.filter (fun d => !d.node.isBlankText) =
      (c.children.filter fun d => !d.node.isBlankText).map trimTexts := by
  rw [children_trimTexts, List.filter_map]
  congr 2
  funext d
  simp

theorem contentChildren_trimTexts :
    c.trimTexts.node.contentChildren = c.node.contentChildren.map Node.trimTexts := by
  rw [trimTexts_node, Node.contentChildren, Node.contentChildren, Node.trimTexts_children,
    List.filter_map]
  congr 2
  funext n
  simp

end Cursor

namespace Node

theorem findIn?_eq_none {p : Node → Bool} {l : List Node}
    (h : ∀ n ∈ l, p n = false ∧ n.findDescendant? p = none) : findIn? p l = none := by
  induction l with
  | nil => rfl
  | cons n l ih =>
    obtain ⟨hp, hn⟩ := h n List.mem_cons_self
    simp only [findIn?, hp, hn, Bool.false_eq_true, if_false, Option.none_or]
    exact ih fun m hm => h m (List.mem_cons_of_mem n hm)

theorem mem_textContents {l : List Node} {x : Char} (h : x ∈ (textContents l).toList) :
    ∃ n ∈ l, x ∈ n.textContent.toList := by
  induction l with
  | nil => simp [textContents] at h
  | cons n l ih =>
    rw [textContents, String.toList_append, List.mem_append] at h
    rcases h with h | h
    · exact ⟨n, List.mem_cons_self, h⟩
    · obtain ⟨m, hm, hx⟩ := ih h
      exact ⟨m, List.mem_cons_of_mem n hm, hx⟩

theorem mem_textContent {n : Node} {x : Char} (h : x ∈ n.textContent.toList) :
    (n.isText ∧ x ∈ n.value.toList) ∨ ∃ m ∈ n.children, x ∈ m.textContent.toList := by
  obtain ⟨k, nm, v, a, cs⟩ := n
  cases k with
  | text => exact .inl ⟨rfl, h⟩
  | comment => simp [textContent] at h
  | element | document | fragment => exact .inr (mem_textContents h)

end Node

namespace Cursor

variable {P : Cursor → Prop} {c : Cursor}

theorem Throughout.trimTexts (h : c.Throughout P) :
    c.trimTexts.Throughout fun d' => ∃ d, P d ∧ d.trimTexts = d' := by
  induction h with
  | @intro c hc _ ih =>
    refine .intro ⟨c, hc, rfl⟩ fun d' hd' => ?_
    rw [children_trimTexts] at hd'
    obtain ⟨d, hd, rfl⟩ := List.mem_map.1 hd'
    exact ih d hd

theorem Throughout.findDescendant?_eq_none {p : Node → Bool} (h : c.Throughout P)
    (hP : ∀ d, P d → p d.node = false) : c.node.findDescendant? p = none := by
  induction h with
  | @intro c _ hch ih =>
    rw [Node.findDescendant?_eq]
    apply Node.findIn?_eq_none
    intro n hn
    obtain ⟨d, hd, rfl⟩ := exists_mem_children hn
    exact ⟨hP d (hch d hd).self, ih d hd⟩

theorem Throughout.hasDescendant_eq_false {t : String} (h : c.Throughout P)
    (hP : ∀ d, P d → d.node.isTag t = false) : c.hasDescendant t = false := by
  rw [hasDescendant, Node.hasDescendant, h.findDescendant?_eq_none hP, Option.isSome_none]

theorem Throughout.mem_textContent {q : Char → Prop} (h : c.Throughout P)
    (hP : ∀ d, P d → d.node.isText → ∀ x ∈ d.node.value.toList, q x) :
    ∀ x ∈ c.node.textContent.toList, q x := by
  induction h with
  | @intro c hc hch ih =>
    intro x hx
    rcases Node.mem_textContent hx with ⟨ht, hv⟩ | ⟨m, hm, hmx⟩
    · exact hP c hc ht x hv
    · obtain ⟨d, hd, rfl⟩ := exists_mem_children hm
      exact ih d hd x hmx

end Cursor

namespace Cursor

variable {o : Options} {c d : Cursor}

theorem inOutline_root (n : Node) : (root n).InOutline :=
  ⟨by simp [root], by simp [root, parentTag?]⟩

theorem Outlined.of_mem_children (ho : c.Outlined o) (hd : d ∈ c.children) :
    c.node.isElement ∧ c.tag ∈ outlineTags := by
  rcases ho.node with ⟨v, hv, -⟩ | h
  · obtain ⟨i, hi, -⟩ := mem_children.1 hd
    simp [hv, Node.text] at hi
  · exact h

theorem InOutline.of_mem_children (hc : c.InOutline) (ho : c.Outlined o) (hd : d ∈ c.children) :
    d.InOutline := by
  obtain ⟨hel, htag⟩ := ho.of_mem_children hd
  obtain ⟨i, hi, hp⟩ := mem_children.1 hd
  refine ⟨fun st hst => ?_, fun hlist => ?_⟩
  · rw [hp, List.mem_cons] at hst
    rcases hst with rfl | hst
    · exact ⟨hel, htag⟩
    · exact hc.above st hst
  · have hc' : c.isTag "ul" ∨ c.isTag "ol" := by
      rw [parentTag?_of_mem_children hd] at hlist
      simp only [Option.some.injEq] at hlist
      simp only [isTag, Node.isTag, hel, Bool.true_and, beq_iff_eq]
      exact hlist
    exact ho.lists hc' d.node (List.mem_of_getElem? hi)

theorem InOutline.hasAncestor_eq_false (hc : c.InOutline) {t : String} (ht : t ∉ outlineTags) :
    c.hasAncestor t = false := by
  simp only [hasAncestor, List.any_eq_false, Node.isTag, Bool.and_eq_true, beq_iff_eq, not_and]
  intro st hst _ hname
  exact ht (hname ▸ (hc.above st hst).2)

theorem InOutline.parentTag?_mem (hc : c.InOutline) : ∀ t ∈ c.parentTag?, t ∈ outlineTags := by
  intro t ht
  simp only [parentTag?, Option.mem_def, Option.map_eq_some_iff] at ht
  obtain ⟨st, hst, rfl⟩ := ht
  exact (hc.above st (List.mem_of_mem_head? hst)).2

theorem Outlined.isTag_eq_false (ho : c.Outlined o) {t : String} (ht : t ∉ outlineTags) :
    c.node.isTag t = false := by
  rcases ho.node with ⟨v, hv, -⟩ | ⟨-, htag⟩
  · simp [hv, Node.text, Node.isTag, Node.isElement]
  · simp only [Node.isTag, Bool.and_eq_false_iff, beq_eq_false_iff_ne]
    exact .inr fun hname => ht (hname ▸ htag)

end Cursor

theorem isBlockTag_ascii {t : String}
    (h : ∀ c ∈ t.toList, c.toNat < 65 ∨ 90 < c.toNat ∧ c.toNat < 128) :
    isBlockTag t = blockTags.contains t := by
  rw [isBlockTag, lowercase_ascii h]

theorem outlineTags_isBlockTag : ∀ t ∈ outlineTags, isBlockTag t = true := by
  simp only [outlineTags, List.mem_cons, List.not_mem_nil, or_false]
  rintro t (rfl | rfl | rfl | rfl | rfl | rfl) <;> rw [isBlockTag_ascii (by simp)] <;> decide

namespace Cursor

variable {o : Options} {c : Cursor}

theorem Outlined.isBlockElement (h : c.Outlined o) (ht : c.node.isText = false) :
    c.node.isBlockElement = true := by
  rcases h.node with ⟨v, hv, -⟩ | ⟨hel, htag⟩
  · simp [hv, Node.text, Node.isText] at ht
  · simp only [Node.isBlockElement, hel, Bool.true_and]
    exact outlineTags_isBlockTag _ htag

theorem Throughout.isBlockElement_of_mem (h : c.Throughout (Outlined o)) {m : Node}
    (hm : m ∈ c.node.children) (ht : m.isText = false) : m.isBlockElement = true := by
  obtain ⟨d, hd, rfl⟩ := exists_mem_children hm
  exact (h.of_mem_children hd).self.isBlockElement ht

theorem Throughout.normalizeChild_text (h : c.Throughout (Outlined o)) {n : Node} {i : Nat}
    (hi : c.node.children[i]? = some n) (ht : n.isText = true) :
    n.normalizeChild false true (c.node.children.map Node.isBlockElement) i =
      { n with value := normalizeValue n.value true true } := by
  have hchain := h.self.texts
  have hlt : i < c.node.children.length := (List.getElem?_eq_some_iff.1 hi).1
  have hn : c.node.children[i] = n := (List.getElem?_eq_some_iff.1 hi).2
  -- a neighbour at position `j` is not a text, so it is a block
  have hblock : ∀ j (hj : j < c.node.children.length), c.node.children[j].isText = false →
      ((c.node.children.map Node.isBlockElement)[j]?.getD false) = true := by
    intro j hj hjt
    rw [List.getElem?_map, List.getElem?_eq_getElem hj]
    exact h.isBlockElement_of_mem (List.getElem_mem hj) hjt
  have hstart : ((0 < i && ((c.node.children.map Node.isBlockElement)[i - 1]?.getD false)) ||
      (true && i == 0)) = true := by
    rcases i with _ | j
    · rfl
    · have hj := hchain.getElem j hlt
      rw [hn] at hj
      simp only [Nat.add_sub_cancel, Nat.zero_lt_succ, decide_true, Bool.true_and]
      rw [hblock j (by omega) (by simpa [ht] using hj), Bool.true_or]
  have hend : ((c.node.children.map Node.isBlockElement)[i + 1]?.getD false ||
      (true && i + 1 == (c.node.children.map Node.isBlockElement).length)) = true := by
    by_cases hlast : i + 1 < c.node.children.length
    · have hj := hchain.getElem i hlast
      rw [hn] at hj
      rw [hblock (i + 1) hlast (by simpa [ht] using hj), Bool.true_or]
    · simp only [List.length_map, Bool.true_and, Bool.or_eq_true, beq_iff_eq]
      exact .inr (by omega)
  simp only [Node.normalizeChild, ht, if_true, Bool.false_eq_true, if_false]
  rw [hstart, hend]

theorem Throughout.normalizeWhitespace_eq_trimTexts (h : c.Throughout (Outlined o))
    (hel : c.node.isElement = true) : c.node.normalizeWhitespace false = c.node.trimTexts := by
  induction h with
  | @intro c hc hch ih =>
    have hnt : c.node.isText = false := by
      simp only [Node.isElement, beq_iff_eq] at hel
      simp [Node.isText, hel]
    have hblock := hc.isBlockElement hnt
    rw [Node.normalizeWhitespace_eq_mk, Node.normalizeWhitespace_children, Node.trimTexts_eq,
      if_neg (by simp [hnt]), hblock]
    congr 1
    conv => rhs; rw [← List.zipIdx_map_fst 0 c.node.children, List.map_map]
    refine List.map_congr_left fun p hni => ?_
    obtain ⟨n, i⟩ := p
    have hi : c.node.children[i]? = some n := List.mem_zipIdx_iff_getElem?.1 hni
    dsimp only [Function.comp_apply]
    have hd : (⟨n, ⟨c.node, i⟩ :: c.path⟩ : Cursor) ∈ c.children := mem_children.2 ⟨i, hi, rfl⟩
    rcases (hch _ hd).self.node with ⟨v, hv, -⟩ | ⟨hnel, htag⟩
    · dsimp only at hv
      subst hv
      rw [(Throughout.intro hc hch).normalizeChild_text hi rfl, Node.trimTexts_eq]
      rfl
    · dsimp only at hnel htag
      have hpre : n.isTag "pre" = false := by
        simp only [Node.isTag, hnel, Bool.true_and, beq_eq_false_iff_ne]
        intro hname
        simp [outlineTags, Cursor.tag, hname] at htag
      rw [Node.normalizeChild_of_isElement hnel, hpre, Bool.false_or]
      exact ih _ hd hnel

end Cursor

end HtmlMarkdown
