import HtmlMarkdown.Proofs.PaddedConversion
import HtmlMarkdown.Proofs.SourceBlanks
import HtmlMarkdown.Proofs.LineLength
import HtmlMarkdown.Proofs.DepthGuard

namespace HtmlMarkdown

section Lists

variable {α β : Type}

theorem zipIdx_map_modify {l : List α} {i : Nat} {F : α → α} {g : α × Nat → β} {G : β → β}
    (h : ∀ a, l[i]? = some a → g (F a, i) = G (g (a, i))) :
    (l.modify i F).zipIdx.map g = (l.zipIdx.map g).modify i G := by
  refine List.ext_getElem? fun j => ?_
  simp only [List.getElem?_map, List.getElem?_zipIdx, List.getElem?_modify]
  by_cases hij : i = j
  · subst hij
    cases ha : l[i]? with
    | none => rfl
    | some a => simp [h a ha]
  · cases l[j]? <;> simp [hij]

theorem map_modify_of_comp {l : List α} {i : Nat} {F : α → α} {f : α → β}
    (h : ∀ a, f (F a) = f a) : (l.modify i F).map f = l.map f := by
  refine List.ext_getElem? fun j => ?_
  simp only [List.getElem?_map, List.getElem?_modify]
  cases l[j]? <;> by_cases hij : i = j <;> simp [hij, h]

end Lists

namespace Node

/-- The tree with `x` put before child `k` of the node at child positions `path`. -/
def insertChildAt (n x : Node) (k : Nat) : List Nat → Node
  | [] => { n with children := n.children.take k ++ x :: n.children.drop k }
  | i :: path => { n with children := n.children.modify i fun c => c.insertChildAt x k path }

/-- Position `k` of the node at `path` lies between blocks, where normalization reaches. -/
def BlockGap (n : Node) (k : Nat) : List Nat → Prop
  | [] => k ≤ n.children.length ∧ n.children ≠ [] ∧
      ∀ j, (j + 1 = k ∨ j = k) → ∀ m ∈ n.children[j]?, m.isBlockElement = true
  | i :: path => ∃ c, n.children[i]? = some c ∧ c.isElement = true ∧ c.isTag "pre" = false ∧
      c.BlockGap k path

section Insert

variable {x : Node} {k : Nat}

@[simp] theorem kind_insertChildAt (n : Node) (path : List Nat) :
    (n.insertChildAt x k path).kind = n.kind := by
  cases path <;> rfl

@[simp] theorem name_insertChildAt (n : Node) (path : List Nat) :
    (n.insertChildAt x k path).name = n.name := by
  cases path <;> rfl

theorem isElement_insertChildAt (n : Node) (path : List Nat) :
    (n.insertChildAt x k path).isElement = n.isElement := by
  simp [isElement]

theorem isTag_insertChildAt (n : Node) (path : List Nat) (t : String) :
    (n.insertChildAt x k path).isTag t = n.isTag t := by
  simp [isTag, isElement]

theorem isBlockElement_insertChildAt (n : Node) (path : List Nat) :
    (n.insertChildAt x k path).isBlockElement = n.isBlockElement := by
  simp [isBlockElement, isElement]

end Insert

@[simp] theorem kind_normalizeWhitespace (inPre : Bool) (n : Node) :
    (n.normalizeWhitespace inPre).kind = n.kind := by
  rw [normalizeWhitespace_eq_mk]

@[simp] theorem name_normalizeWhitespace (inPre : Bool) (n : Node) :
    (n.normalizeWhitespace inPre).name = n.name := by
  rw [normalizeWhitespace_eq_mk]

theorem isBlockElement_normalizeChild (inPre parentIsBlock : Bool) (blocks : List Bool) (c : Node)
    (i : Nat) :
    (c.normalizeChild inPre parentIsBlock blocks i).isBlockElement = c.isBlockElement := by
  unfold normalizeChild
  split
  · split <;> rfl
  · split
    · simp [isBlockElement, isElement]
    · rfl

theorem map_isBlockElement_normalizeWhitespace (inPre : Bool) (n : Node) :
    (n.normalizeWhitespace inPre).children.map isBlockElement = n.children.map isBlockElement := by
  rw [normalizeWhitespace_children, List.map_map]
  conv => rhs; rw [← List.zipIdx_map_fst 0 n.children, List.map_map]
  exact List.map_congr_left fun ⟨c, i⟩ _ => isBlockElement_normalizeChild _ _ _ c i

def trimStartAt (parentIsBlock : Bool) (blocks : List Bool) (i : Nat) : Bool :=
  (0 < i && blocks[i - 1]?.getD false) || (parentIsBlock && i == 0)

def trimEndAt (parentIsBlock : Bool) (blocks : List Bool) (i : Nat) : Bool :=
  blocks[i + 1]?.getD false || (parentIsBlock && i + 1 == blocks.length)

theorem normalizeChild_of_isText {c : Node} (hc : c.isText = true) (parentIsBlock : Bool)
    (blocks : List Bool) (i : Nat) :
    c.normalizeChild false parentIsBlock blocks i =
      { c with
        value := normalizeValue c.value (trimStartAt parentIsBlock blocks i)
          (trimEndAt parentIsBlock blocks i) } := by
  simp only [normalizeChild, hc, if_true, Bool.false_eq_true, if_false]
  rfl

theorem normalizeChild_eq_of_trims {c : Node} {pb : Bool} {B B' : List Bool} {i i' : Nat}
    (hs : c.isText = true → trimStartAt pb B i = trimStartAt pb B' i')
    (he : c.isText = true → trimEndAt pb B i = trimEndAt pb B' i') :
    c.normalizeChild false pb B i = c.normalizeChild false pb B' i' := by
  cases hc : c.isText with
  | true => rw [normalizeChild_of_isText hc, normalizeChild_of_isText hc, hs hc, he hc]
  | false => simp only [normalizeChild, hc, Bool.false_eq_true, if_false]

section Trims

variable {pb : Bool} {A C C' : List Bool} {i : Nat}

theorem trimStartAt_append (h : i ≤ A.length) :
    trimStartAt pb (A ++ C) i = trimStartAt pb (A ++ C') i := by
  unfold trimStartAt
  rcases Nat.eq_zero_or_pos i with rfl | hi
  · rfl
  · rw [List.getElem?_append_left (by omega), List.getElem?_append_left (by omega)]

theorem trimEndAt_append (h : i + 1 < A.length) :
    trimEndAt pb (A ++ C) i = trimEndAt pb (A ++ C') i := by
  have hlen : (i + 1 == (A ++ C).length) = false := by simp; omega
  have hlen' : (i + 1 == (A ++ C').length) = false := by simp; omega
  rw [trimEndAt, trimEndAt, List.getElem?_append_left h, List.getElem?_append_left h, hlen, hlen']

theorem trimStartAt_cons_succ (b : Bool) (h : A.length < i) :
    trimStartAt pb (A ++ b :: C) (i + 1) = trimStartAt pb (A ++ C) i := by
  have hshift : i + 1 - 1 - A.length = (i - 1 - A.length) + 1 := by omega
  have hpos : (0 < i) = True := eq_true (by omega)
  have hne : (i == 0) = false := by simp; omega
  rw [trimStartAt, trimStartAt, List.getElem?_append_right (by omega),
    List.getElem?_append_right (by omega), hshift, List.getElem?_cons_succ, hne]
  simp [hpos]

theorem trimEndAt_cons_succ (b : Bool) (h : A.length ≤ i) :
    trimEndAt pb (A ++ b :: C) (i + 1) = trimEndAt pb (A ++ C) i := by
  have hshift : i + 1 + 1 - A.length = (i + 1 - A.length) + 1 := by omega
  have hlen : (i + 1 + 1 == (A ++ b :: C).length) = (i + 1 == (A ++ C).length) := by
    rw [Bool.eq_iff_iff, beq_iff_eq, beq_iff_eq, List.length_append, List.length_cons,
      List.length_append]
    omega
  rw [trimEndAt, trimEndAt, List.getElem?_append_right (by omega),
    List.getElem?_append_right (by omega), hshift, List.getElem?_cons_succ, hlen]

end Trims

theorem normalizeChild_blank_gap {v : String} (hv : ∀ x ∈ v.toList, isMarkupBlank x = true)
    {pb : Bool} {A C : List Bool} (hne : A ++ C ≠ []) (hprev : ∀ b ∈ A.getLast?, b = true)
    (hnext : ∀ b ∈ C.head?, b = true) :
    (text v).normalizeChild false pb (A ++ false :: C) A.length = text "" := by
  have htrim : (trimStartAt pb (A ++ false :: C) A.length ||
      trimEndAt pb (A ++ false :: C) A.length) = true := by
    by_cases hA : A = []
    · -- the gap is first, so the next sibling is a block
      subst hA
      obtain ⟨b, C, rfl⟩ := List.exists_cons_of_ne_nil hne
      simp [trimEndAt, hnext b rfl]
    · -- the previous sibling is a block
      have hlast : A.getLast? = some true := by
        rw [List.getLast?_eq_some_getLast hA]
        exact congrArg some (hprev _ (List.getLast?_eq_some_getLast hA))
      have hpos : 0 < A.length := List.length_pos_iff.2 hA
      rw [List.getLast?_eq_getElem?] at hlast
      have hstart : trimStartAt pb (A ++ false :: C) A.length = true := by
        rw [trimStartAt, List.getElem?_append_left (by omega), hlast]
        simp [hpos]
      rw [hstart, Bool.true_or]
  rw [normalizeChild_of_isText rfl]
  show text (normalizeValue v _ _) = text ""
  rw [normalizeValue_blank hv htrim]

theorem isText_of_isBlockElement {m : Node} (h : m.isBlockElement = true) : m.isText = false :=
  isText_of_isElement (Bool.and_eq_true_iff.1 h).1

theorem blocks_beside_gap {pre post : List Node}
    (hnb : ∀ j, (j + 1 = pre.length ∨ j = pre.length) →
      ∀ m ∈ (pre ++ post)[j]?, m.isBlockElement = true) :
    (∀ m ∈ pre.getLast?, m.isBlockElement = true) ∧ ∀ m ∈ post.head?, m.isBlockElement = true := by
  constructor
  · intro m hm
    rw [List.getLast?_eq_getElem?] at hm
    have hlt : pre.length - 1 < pre.length := by
      rcases List.getElem?_eq_some_iff.1 (Option.mem_def.1 hm) with ⟨hlt, -⟩
      exact hlt
    exact hnb (pre.length - 1) (Or.inl (by omega)) m (by rwa [List.getElem?_append_left hlt])
  · intro m hm
    rw [List.head?_eq_getElem?] at hm
    exact hnb pre.length (Or.inr rfl) m (by rwa [List.getElem?_append_right le_rfl, Nat.sub_self])

theorem normalizeChildren_insert_blank {v : String} (hv : ∀ x ∈ v.toList, isMarkupBlank x = true)
    (pb : Bool) {cs : List Node} {k : Nat} (hk : k ≤ cs.length) (hne : cs ≠ [])
    (hnb : ∀ j, (j + 1 = k ∨ j = k) → ∀ m ∈ cs[j]?, m.isBlockElement = true) :
    ((cs.take k ++ text v :: cs.drop k).zipIdx.map fun (c, i) =>
        c.normalizeChild false pb ((cs.take k ++ text v :: cs.drop k).map isBlockElement) i) =
      (cs.zipIdx.map fun (c, i) => c.normalizeChild false pb (cs.map isBlockElement) i).take k ++
        text "" :: (cs.zipIdx.map fun (c, i) =>
          c.normalizeChild false pb (cs.map isBlockElement) i).drop k := by
  obtain ⟨pre, post, rfl, rfl⟩ : ∃ pre post, cs = pre ++ post ∧ pre.length = k :=
    ⟨_, _, (List.take_append_drop k cs).symm, List.length_take_of_le hk⟩
  obtain ⟨hprev, hnext⟩ := blocks_beside_gap hnb
  set A := pre.map isBlockElement with hA
  set C := post.map isBlockElement with hC
  have hblocks : (pre ++ text v :: post).map isBlockElement = A ++ false :: C := by
    rw [List.map_append, List.map_cons]
    rfl
  have hlen : A.length = pre.length := List.length_map _
  rw [List.take_left, List.drop_left, hblocks, List.map_append, List.zipIdx_append,
    List.zipIdx_cons, List.zipIdx_append, List.map_append, List.map_append, List.map_cons,
    List.take_left' (by simp), List.drop_left' (by simp), Nat.zero_add]
  refine congrArg₂ _ ?before (congrArg₂ _ ?gap ?after)
  case before =>
    refine List.map_congr_left fun ⟨c, j⟩ hmem => ?_
    obtain ⟨-, hj, hc⟩ := List.mem_zipIdx hmem
    show c.normalizeChild false pb (A ++ false :: C) j = c.normalizeChild false pb (A ++ C) j
    refine normalizeChild_eq_of_trims (fun _ => trimStartAt_append (by omega)) fun htext => ?_
    -- a text before the gap is not next to it, since the sibling there is a block
    refine trimEndAt_append (Nat.lt_of_le_of_ne (by omega) fun hlast => ?_)
    have hm : c ∈ pre.getLast? := by
      have hidx : pre.length - 1 = j := by omega
      rw [List.getLast?_eq_getElem?, hidx]
      simp [hc]
    exact Bool.false_ne_true ((isText_of_isBlockElement (hprev c hm)).symm.trans htext)
  case gap =>
    show (text v).normalizeChild false pb (A ++ false :: C) pre.length = text ""
    rw [← hlen]
    refine normalizeChild_blank_gap hv ?_ ?_ ?_
    · rw [← List.map_append]
      exact fun h => hne (List.map_eq_nil_iff.1 h)
    · intro b hb
      rw [hA, List.getLast?_map] at hb
      obtain ⟨m, hm, rfl⟩ := Option.mem_map.1 hb
      exact hprev m hm
    · intro b hb
      rw [hC, List.head?_map] at hb
      obtain ⟨m, hm, rfl⟩ := Option.mem_map.1 hb
      exact hnext m hm
  case after =>
    rw [List.zipIdx_succ, List.map_map]
    refine List.map_congr_left fun ⟨c, j⟩ hmem => ?_
    obtain ⟨hj, -, hc⟩ := List.mem_zipIdx hmem
    show c.normalizeChild false pb (A ++ false :: C) (j + 1) =
      c.normalizeChild false pb (A ++ C) j
    refine normalizeChild_eq_of_trims (fun htext => trimStartAt_cons_succ false ?_)
      (fun _ => trimEndAt_cons_succ false (by omega))
    -- a text after the gap is not next to it, since the sibling there is a block
    refine Nat.lt_of_le_of_ne (by omega) fun hfirst => ?_
    have hm : c ∈ post.head? := by
      have hidx : j - pre.length = 0 := by omega
      rw [List.head?_eq_getElem?]
      simp [hc, hidx]
    exact Bool.false_ne_true ((isText_of_isBlockElement (hnext c hm)).symm.trans htext)

section Gap

variable {k : Nat}

theorem normalizeWhitespace_insertChildAt {v : String}
    (hv : ∀ x ∈ v.toList, isMarkupBlank x = true) :
    ∀ {path : List Nat} {n : Node}, n.BlockGap k path →
      (n.insertChildAt (text v) k path).normalizeWhitespace false =
        (n.normalizeWhitespace false).insertChildAt (text "") k path
  | [], n, ⟨hk, hne, hnb⟩ => by
    rw [normalizeWhitespace_eq_mk, normalizeWhitespace_children, isBlockElement_insertChildAt,
      normalizeWhitespace_eq_mk false n]
    simp only [insertChildAt]
    congr 1
    rw [normalizeWhitespace_children]
    exact normalizeChildren_insert_blank hv _ hk hne hnb
  | i :: path, n, ⟨c, hc, helem, hpre, hgap⟩ => by
    rw [normalizeWhitespace_eq_mk, normalizeWhitespace_children, isBlockElement_insertChildAt,
      normalizeWhitespace_eq_mk false n]
    simp only [insertChildAt]
    congr 1
    rw [normalizeWhitespace_children,
      map_modify_of_comp fun c => isBlockElement_insertChildAt c path]
    -- the child on the way is an element outside preformatted content, normalized on its own
    refine zipIdx_map_modify fun a ha => ?_
    rw [hc] at ha
    cases ha
    have helem' : (c.insertChildAt (text v) k path).isElement = true := by
      rw [isElement_insertChildAt, helem]
    show (c.insertChildAt (text v) k path).normalizeChild false _ _ i =
      (c.normalizeChild false _ _ i).insertChildAt (text "") k path
    rw [normalizeChild_of_isElement helem', normalizeChild_of_isElement helem, isTag_insertChildAt,
      hpre, Bool.or_false, normalizeWhitespace_insertChildAt hv hgap]

theorem BlockGap.normalizeWhitespace : ∀ {path : List Nat} {n : Node}, n.BlockGap k path →
    (n.normalizeWhitespace false).BlockGap k path
  | [], n, ⟨hk, hne, hnb⟩ => by
    have hmap := map_isBlockElement_normalizeWhitespace false n
    have hlen : (n.normalizeWhitespace false).children.length = n.children.length := by
      rw [← List.length_map isBlockElement, hmap, List.length_map]
    refine ⟨hlen ▸ hk,
      fun h => hne (List.length_eq_zero_iff.1 (hlen ▸ List.length_eq_zero_iff.2 h)),
      fun j hj m hm => ?_⟩
    have hj' := congrArg (·[j]?) hmap
    simp only [List.getElem?_map, Option.mem_def.1 hm, Option.map_some] at hj'
    obtain ⟨m', hm', hb⟩ := Option.map_eq_some_iff.1 hj'.symm
    exact hb ▸ hnb j hj m' hm'
  | i :: path, n, ⟨c, hc, helem, hpre, hgap⟩ => by
    refine ⟨c.normalizeWhitespace false, ?_, ?_, ?_, hgap.normalizeWhitespace⟩
    · rw [normalizeWhitespace_children, List.getElem?_map, List.getElem?_zipIdx, hc]
      simp only [Option.map_some, Nat.zero_add]
      rw [normalizeChild_of_isElement helem, hpre, Bool.or_false]
    · simp [isElement] at helem ⊢
      exact helem
    · simp [isTag, isElement] at hpre ⊢
      exact hpre

theorem PaddedList.insert_blank (pre : List Node) {post : List Node}
    (hnext : ∀ m ∈ post.head?, m.isBlockElement = true) :
    PaddedList (pre ++ post) (pre ++ text "" :: post) := by
  induction pre with
  | nil => exact .blank hnext (.refl post)
  | cons c pre ih => exact .cons (.refl c) ih

theorem PaddedList.modify {G : Node → Node} :
    ∀ {cs : List Node} {i : Nat}, (∀ c, cs[i]? = some c → c.Padded (G c)) →
      PaddedList cs (cs.modify i G)
  | [], _, _ => by
    rw [List.modify_nil]
    exact .nil
  | c :: cs, 0, h => by
    rw [List.modify_zero_cons]
    exact .cons (h c rfl) (.refl cs)
  | c :: cs, i + 1, h => by
    rw [List.modify_succ_cons]
    exact .cons (.refl c) (PaddedList.modify fun d hd => h d hd)

/-- An empty text put in a gap between blocks pads the tree. -/
theorem BlockGap.padded {k : Nat} : ∀ {path : List Nat} {n : Node}, n.BlockGap k path →
    n.Padded (n.insertChildAt (text "") k path)
  | [], n, ⟨_, _, hnb⟩ => by
    have hnext : ∀ m ∈ (n.children.drop k).head?, m.isBlockElement = true := by
      rw [List.head?_drop]
      exact hnb k (Or.inr rfl)
    have hpad := PaddedList.insert_blank (n.children.take k) hnext
    rw [List.take_append_drop] at hpad
    exact .mk rfl rfl rfl rfl hpad
  | _ :: _, n, ⟨c, hc, _, _, hgap⟩ =>
    .mk rfl rfl rfl rfl (PaddedList.modify fun d hd => by
      rw [hc] at hd
      cases hd
      exact hgap.padded)

theorem maxDepths_append (A B : List Node) :
    maxDepths (A ++ B) = max (maxDepths A) (maxDepths B) := by
  induction A with
  | nil => simp [maxDepths]
  | cons c A ih => rw [List.cons_append, maxDepths, maxDepths, ih, Nat.max_assoc]

theorem one_le_maxDepths {cs : List Node} (h : cs ≠ []) : 1 ≤ maxDepths cs := by
  obtain ⟨c, cs, rfl⟩ := List.exists_cons_of_ne_nil h
  rw [maxDepths, maxDepth_eq]
  omega

theorem maxDepths_modify {G : Node → Node} :
    ∀ {cs : List Node} {i : Nat}, (∀ c, cs[i]? = some c → (G c).maxDepth = c.maxDepth) →
      maxDepths (cs.modify i G) = maxDepths cs
  | [], _, _ => by rw [List.modify_nil]
  | c :: cs, 0, h => by rw [List.modify_zero_cons, maxDepths, maxDepths, h c rfl]
  | c :: cs, i + 1, h => by
    rw [List.modify_succ_cons, maxDepths, maxDepths,
      maxDepths_modify fun d (hd : cs[i]? = some d) => h d hd]

theorem BlockGap.maxDepth_insertChildAt {x : Node} (hx : x.maxDepth = 1) {k : Nat} :
    ∀ {path : List Nat} {n : Node}, n.BlockGap k path →
      (n.insertChildAt x k path).maxDepth = n.maxDepth
  | [], n, ⟨_, hne, _⟩ => by
    -- the children around the gap are there, so the leaf is no deeper than they are
    have hsome := one_le_maxDepths hne
    rw [← List.take_append_drop k n.children, maxDepths_append] at hsome
    rw [maxDepth_eq, maxDepth_eq n]
    show 1 + maxDepths (n.children.take k ++ x :: n.children.drop k) = 1 + maxDepths n.children
    conv_rhs => rw [← List.take_append_drop k n.children]
    rw [maxDepths_append, maxDepths_append, maxDepths, hx]
    omega
  | _ :: _, n, ⟨c, hc, _, _, hgap⟩ => by
    rw [maxDepth_eq, maxDepth_eq n]
    show 1 + maxDepths (n.children.modify _ _) = _
    rw [maxDepths_modify fun d hd => by
      rw [hc] at hd
      cases hd
      exact hgap.maxDepth_insertChildAt hx]

end Gap

end Node

/-- A blank text put between blocks, where normalization reaches, changes no conversion. -/
theorem convert_insert_blank_between_blocks (svc : Service)
    (htext : svc.registry.get? "#text" = some .text) {t : Node} (hroot : t.isTag "pre" = false)
    {k : Nat} {path : List Nat} (hgap : t.BlockGap k path) {v : String}
    (hv : ∀ x ∈ v.toList, isMarkupBlank x = true) :
    svc.convert (t.insertChildAt (.text v) k path) = svc.convert t := by
  have hdepth : (t.insertChildAt (.text v) k path).maxDepth = t.maxDepth :=
    hgap.maxDepth_insertChildAt rfl
  -- the tree with the blank normalizes to the normalized tree padded with an empty text
  have hnorm : (t.insertChildAt (.text v) k path).normalizeTree =
      t.normalizeTree.insertChildAt (.text "") k path := by
    rw [Node.normalizeTree, Node.normalizeTree, Node.isTag_insertChildAt, hroot,
      Node.normalizeWhitespace_insertChildAt hv hgap]
  have hpadded : (Cursor.root t.normalizeTree).Padded
      (Cursor.root (t.normalizeTree.insertChildAt (.text "") k path)) := by
    refine .root ?_
    rw [Node.normalizeTree, hroot]
    exact hgap.normalizeWhitespace.padded
  rw [svc.convert_eq, svc.convert_eq, hdepth, Service.render, Service.render, hnorm,
    hpadded.convert_eq (s := ⟨svc.options, svc.registry⟩) htext]

theorem convert_insert_blank_between_items :
    Registry.builtIn.get? "#text" = some .text ∧
      (Node.element "body" [] [.element "ul" [] [.element "li" [] [.text "a"],
        .element "li" [] [.text "b"]]]).isTag "pre" = false ∧
      (Node.element "body" [] [.element "ul" [] [.element "li" [] [.text "a"],
        .element "li" [] [.text "b"]]]).BlockGap 1 [0] ∧
      (∀ x ∈ "\n  ".toList, isMarkupBlank x = true) ∧
      (Service.withOptions {}).convert
          ((Node.element "body" [] [.element "ul" [] [.element "li" [] [.text "a"],
            .element "li" [] [.text "b"]]]).insertChildAt (.text "\n  ") 1 [0]) =
        (Service.withOptions {}).convert
          (Node.element "body" [] [.element "ul" [] [.element "li" [] [.text "a"],
            .element "li" [] [.text "b"]]]) := by
  -- the tags are already in lowercase
  obtain ⟨hbody, hul, hli⟩ : lowercase "body" = "body" ∧ lowercase "ul" = "ul" ∧
      lowercase "li" = "li" := by decide +kernel
  have hroot : (Node.element "body" [] [.element "ul" [] [.element "li" [] [.text "a"],
      .element "li" [] [.text "b"]]]).isTag "pre" = false := by
    simp only [Node.element, hbody]
    decide
  have hv : ∀ x ∈ "\n  ".toList, isMarkupBlank x = true := by simp [isMarkupBlank]
  -- the gap lies between the two items, both block-level
  have hgap : (Node.element "body" [] [.element "ul" [] [.element "li" [] [.text "a"],
      .element "li" [] [.text "b"]]]).BlockGap 1 [0] := by
    refine ⟨_, rfl, rfl, by simp only [Node.element, hul]; decide, by decide, List.cons_ne_nil _ _,
      fun j hj m hm => ?_⟩
    rcases hj with hj | rfl
    · obtain rfl : j = 0 := by omega
      cases hm
      simp only [Node.element, Node.isBlockElement, isBlockTag, hli]
      decide
    · cases hm
      simp only [Node.element, Node.isBlockElement, isBlockTag, hli]
      decide
  exact ⟨Registry.builtIn_get?_text, hroot, hgap, hv,
    convert_insert_blank_between_blocks (Service.withOptions {}) Registry.builtIn_get?_text hroot
      hgap hv⟩

theorem convert_blank_paragraph_in_list :
    (Node.element "ol" [] [.element "li" [] []]).isTag "pre" = false ∧
      (Node.element "ol" [] [.element "li" [] []]).BlockGap 0 [] ∧
      ((Service.withOptions {}).register "#text" .paragraph).convert
          ((Node.element "ol" [] [.element "li" [] []]).insertChildAt (.text " ") 0 []) ≠
        ((Service.withOptions {}).register "#text" .paragraph).convert
          (Node.element "ol" [] [.element "li" [] []]) := by
  -- the tags are already in lowercase
  obtain ⟨hol, hli, htext⟩ : lowercase "ol" = "ol" ∧ lowercase "li" = "li" ∧
      lowercase "#text" = "#text" := by decide +kernel
  refine ⟨by simp only [Node.element, hol]; decide,
    ⟨Nat.zero_le _, List.cons_ne_nil _ _, fun j hj m hm => ?_⟩, fun h => ?_⟩
  · -- the only item, after the gap, is a block
    obtain rfl : j = 0 := by omega
    cases hm
    simp only [Node.element, Node.isBlockElement, isBlockTag, hli]
    decide
  -- conversion fails at the first node it visits that fails by itself
  have herr := congrArg errorOf h
  rw [Service.errorOf_convert rfl (by decide), Service.errorOf_convert rfl (by decide)] at herr
  simp only [Service.setting, Service.register, Registry.register, Node.element, hol, hli,
    htext] at herr
  rw [Setting.visited_of_ruleFor (r := .list) (by decide +kernel) rfl,
    Setting.visited_of_ruleFor (r := .list) (by decide +kernel) rfl] at herr
  simp only [Rule.visits, Cursor.hasAncestor, Cursor.root, Node.insertChildAt, Cursor.children,
    List.any_nil, Bool.false_eq_true, if_false, List.take_zero, List.drop_zero, List.nil_append,
    List.zipIdx_cons, List.zipIdx_nil, List.map_cons, List.map_nil, List.flatMap_cons,
    List.flatMap_nil] at herr
  -- the list visits the blank, a paragraph directly inside it, and then the item, which has no
  -- children; without the blank it visits the item alone
  rw [Setting.visited_of_malformedList (r := .paragraph) (e := .malformedList "ol")
      (by decide +kernel) (by decide +kernel),
    Setting.visited_of_ruleFor (r := .listItem) (by decide +kernel) rfl,
    Setting.visited_of_ruleFor (r := .listItem) (by decide +kernel) rfl] at herr
  simp only [Rule.visits, Cursor.children, List.zipIdx_nil, List.map_nil, List.flatMap_nil] at herr
  exact absurd herr (by decide +kernel)

end HtmlMarkdown
