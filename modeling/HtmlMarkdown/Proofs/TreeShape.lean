import HtmlMarkdown.Proofs.FirstFailure

namespace HtmlMarkdown

def solidText (v : String) : String := String.ofList (v.toList.filter fun c => !isMarkupBlank c)

/-- The tree with only the characters of its texts that are not markup blanks. -/
def Node.shape (n : Node) : Node :=
  ⟨n.kind, n.name, solidText n.value, n.attrs, n.children.attach.map fun ⟨c, _⟩ => c.shape⟩
termination_by sizeOf n
decreasing_by exact Node.sizeOf_lt_of_mem_children ‹_›

namespace Node

variable (n : Node)

@[simp] theorem shape_kind : n.shape.kind = n.kind := by rw [shape]

@[simp] theorem shape_name : n.shape.name = n.name := by rw [shape]

@[simp] theorem shape_attrs : n.shape.attrs = n.attrs := by rw [shape]

@[simp] theorem shape_value : n.shape.value = solidText n.value := by rw [shape]

@[simp] theorem shape_children : n.shape.children = n.children.map shape := by
  rw [shape]
  exact (List.map_subtype (g := shape) fun _ _ => rfl).trans (by rw [List.unattach_attach])

theorem shape_eq :
    n.shape = ⟨n.kind, n.name, solidText n.value, n.attrs, n.children.map shape⟩ := by
  rw [← shape_children]
  rw [shape]

@[simp] theorem isElement_shape : n.shape.isElement = n.isElement := by simp [isElement]

@[simp] theorem isText_shape : n.shape.isText = n.isText := by simp [isText]

@[simp] theorem isTag_shape (t : String) : n.shape.isTag t = n.isTag t := by simp [isTag]

end Node

@[simp] theorem Node.isBlankText_shape (n : Node) : n.shape.isBlankText = n.isBlankText := by
  simp [isBlankText, solidText]

theorem Node.findDescendant?_eq (p : Node → Bool) (n : Node) :
    n.findDescendant? p = findIn? p n.children := by
  cases n
  rfl

theorem Node.isSome_findDescendant?_shape {p : Node → Bool} (hp : ∀ m, p m.shape = p m)
    (n : Node) : (n.shape.findDescendant? p).isSome = (n.findDescendant? p).isSome := by
  rw [findDescendant?_eq, findDescendant?_eq, shape_children]
  -- the children of the shape are searched in the same order, each one by its own shape
  have hlist : ∀ cs : List Node, (∀ c ∈ cs, c ∈ n.children) →
      (findIn? p (cs.map shape)).isSome = (findIn? p cs).isSome := by
    intro cs hcs
    induction cs with
    | nil => rfl
    | cons c cs ih =>
      have hc := Node.isSome_findDescendant?_shape hp c
      have hrest := ih fun d hd => hcs d (List.mem_cons_of_mem c hd)
      simp only [List.map_cons, findIn?, hp]
      split <;> simp [Option.isSome_or, hc, hrest]
  exact hlist n.children fun _ h => h
termination_by sizeOf n
decreasing_by exact Node.sizeOf_lt_of_mem_children (hcs c List.mem_cons_self)

theorem hasSpans_shape (n : Node) : hasSpans n.shape = hasSpans n := by
  unfold hasSpans
  exact Node.isSome_findDescendant?_shape (fun m => by simp [Node.hasAttr, Node.attr?]) n

/-- A cursor on the shape of its tree, every parent on the way up replaced by its shape. -/
def Cursor.shape (c : Cursor) : Cursor :=
  ⟨c.node.shape, c.path.map fun st => ⟨st.parent.shape, st.index⟩⟩

namespace Cursor

variable (c : Cursor)

@[simp] theorem shape_node : c.shape.node = c.node.shape := rfl

theorem root_shape (n : Node) : (root n).shape = root n.shape := rfl

theorem children_shape : c.shape.children = c.children.map shape := by
  simp only [children, shape, Node.shape_children, List.zipIdx_map, List.map_map]
  rfl

@[simp] theorem tag_shape : c.shape.tag = c.tag := by simp [tag]

@[simp] theorem isTag_shape (t : String) : c.shape.isTag t = c.isTag t := by simp [isTag]

@[simp] theorem parentTag?_shape : c.shape.parentTag? = c.parentTag? := by
  simp only [parentTag?, shape]
  cases c.path <;> simp

@[simp] theorem hasAncestor_shape (t : String) : c.shape.hasAncestor t = c.hasAncestor t := by
  simp [hasAncestor, shape, List.any_map, Function.comp_def]

end Cursor

theorem filter_children_shape (c : Cursor) :
    c.shape.children.filter (fun d => !d.node.isBlankText) =
      (c.children.filter fun d => !d.node.isBlankText).map Cursor.shape := by
  rw [Cursor.children_shape, List.filter_map]
  congr 2
  funext d
  simp

theorem Setting.ruleFor_shape (s : Setting) (c : Cursor) : s.ruleFor c.shape = s.ruleFor c := by
  simp [Setting.ruleFor]

theorem malformedList?_shape (c : Cursor) (r : Rule) :
    malformedList? c.shape r = malformedList? c r := by
  cases r <;> simp [malformedList?]

theorem Setting.failure_shape (s : Setting) (c : Cursor) : s.failure c.shape = s.failure c := by
  simp [Setting.failure, Setting.ruleFor_shape, malformedList?_shape]

theorem divChainEnd_of_eq {c d : Cursor}
    (h : c.children.filter (fun d => !d.node.isBlankText) = [d]) :
    divChainEnd c = if d.isTag "div" then divChainEnd d else c := by
  rw [divChainEnd]
  split
  · next d' h' =>
    rw [h, List.cons.injEq] at h'
    rw [h'.1]
  · next hne => exact absurd h (hne d)

theorem divChainEnd_of_ne {c : Cursor}
    (h : ∀ d, c.children.filter (fun d => !d.node.isBlankText) ≠ [d]) : divChainEnd c = c := by
  rw [divChainEnd]
  split
  · next d' h' => exact absurd h' (h d')
  · rfl

/-- A rewrite of cursors that keeps the non-blank children and which nodes are divs moves the end of
a div chain with it. -/
theorem divChainEnd_map {f : Cursor → Cursor}
    (hchildren : ∀ c, (f c).children.filter (fun d => !d.node.isBlankText) =
      (c.children.filter fun d => !d.node.isBlankText).map f)
    (hdiv : ∀ c, (f c).isTag "div" = c.isTag "div") (c : Cursor) :
    divChainEnd (f c) = f (divChainEnd c) := by
  fun_induction divChainEnd c with
  | case1 c d h _ hd ih =>
    have h' := hchildren c
    rw [h, List.map_singleton] at h'
    rw [divChainEnd_of_eq h', if_pos ((hdiv d).trans hd), ih]
  | case2 c d h _ hd =>
    have h' := hchildren c
    rw [h, List.map_singleton] at h'
    rw [divChainEnd_of_eq h', if_neg (by rw [hdiv]; exact hd)]
  | case3 c hne =>
    apply divChainEnd_of_ne
    intro d' hd'
    rw [hchildren, List.map_eq_singleton_iff] at hd'
    obtain ⟨d, hd, -⟩ := hd'
    exact hne d hd

theorem divChainEnd_shape (c : Cursor) : divChainEnd c.shape = (divChainEnd c).shape :=
  divChainEnd_map filter_children_shape (fun c => Cursor.isTag_shape c "div") c

theorem Rule.visits_shape (r : Rule) (c : Cursor) :
    r.visits c.shape = (r.visits c).map Cursor.shape := by
  cases r <;> simp [Rule.visits, Cursor.children_shape, divChainEnd_shape, hasSpans_shape] <;>
    split <;> rfl

theorem Setting.visited_shape (s : Setting) (c : Cursor) :
    s.visited c.shape = (s.visited c).map Cursor.shape := by
  rw [Setting.visited_eq, Setting.visited_eq, Setting.ruleFor_shape]
  cases s.ruleFor c with
  | error e => rfl
  | ok r =>
    dsimp only
    rw [malformedList?_shape]
    split
    · rfl
    · rw [List.map_cons, Rule.visits_shape, List.flatMap_map, List.map_flatMap]
      congr 1
      exact List.flatMap_congr fun d hd => Setting.visited_shape s d
termination_by sizeOf c.node
decreasing_by exact sizeOf_lt_of_mem_visits hd

theorem Setting.findSome?_failure_shape (s : Setting) (c : Cursor) :
    (s.visited c.shape).findSome? s.failure = (s.visited c).findSome? s.failure := by
  rw [Setting.visited_shape, List.findSome?_map]
  congr 1
  funext d
  exact s.failure_shape d

theorem isMarkupBlank_space : isMarkupBlank ' ' = true := by decide

theorem filter_collapseBlanks (b : Bool) (l : List Char) :
    (collapseBlanks b l).filter (fun c => !isMarkupBlank c) =
      l.filter fun c => !isMarkupBlank c := by
  induction l generalizing b with
  | nil => rfl
  | cons c l ih =>
    by_cases hc : isMarkupBlank c
    · cases b <;> simp [collapseBlanks, hc, ih, isMarkupBlank_space]
    · simp [collapseBlanks, hc, ih]

theorem filter_dropWhile_space (l : List Char) :
    (l.dropWhile (· == ' ')).filter (fun c => !isMarkupBlank c) =
      l.filter fun c => !isMarkupBlank c := by
  induction l with
  | nil => rfl
  | cons c l ih =>
    by_cases hc : c = ' '
    · subst hc
      rw [List.dropWhile_cons_of_pos (by decide), ih]
      simp [isMarkupBlank_space]
    · rw [List.dropWhile_cons_of_neg (by simpa using hc)]

theorem solidText_normalizeValue (v : String) (trimStart trimEnd : Bool) :
    solidText (normalizeValue v trimStart trimEnd) = solidText v := by
  simp only [solidText, normalizeValue, String.toList_ofList]
  congr 1
  split <;> split <;>
    simp [dropEndBy, List.filter_reverse, filter_dropWhile_space, filter_collapseBlanks]

theorem Node.shape_normalizeWhitespace (inPre : Bool) (n : Node) :
    (n.normalizeWhitespace inPre).shape = n.shape := by
  rw [shape_eq (n.normalizeWhitespace inPre), shape_eq n, normalizeWhitespace]
  simp only [Node.mk.injEq, true_and, List.map_map]
  conv => rhs; rw [← List.zipIdx_map_fst 0 n.children, ← List.attach_map_subtype_val n.children]
  rw [List.zipIdx_map, List.map_map, List.map_map]
  -- each child keeps its shape: a text loses blanks only, an element by induction
  refine List.map_congr_left fun ⟨⟨c, hc⟩, i⟩ _ => ?_
  dsimp only [Function.comp_apply, Prod.map]
  split
  · split
    · rfl
    · rw [shape_eq, shape_eq c]
      dsimp only
      rw [solidText_normalizeValue]
  · split
    · exact Node.shape_normalizeWhitespace _ c
    · rfl
termination_by sizeOf n
decreasing_by exact Node.sizeOf_lt_of_mem_children hc

def Service.setting (svc : Service) : Setting := ⟨svc.options, svc.registry⟩

theorem Service.errorOf_convert {svc : Service} (hs : svc.options.shortcodes = false) {t : Node}
    (hd : t.maxDepth ≤ svc.options.maxDepth) :
    errorOf (svc.convert t) =
      (svc.setting.visited (Cursor.root t)).findSome? svc.setting.failure := by
  -- conversion runs on the normalized tree, whose shape is the tree's
  have hnorm : (Cursor.root t.normalizeTree).shape = (Cursor.root t).shape := by
    rw [Cursor.root_shape, Cursor.root_shape, Node.normalizeTree, Node.shape_normalizeWhitespace]
  rw [Service.convert, if_neg (by omega), Service.render, errorOf_bind_of_ok fun _ => rfl,
    Setting.errorOf_convert hs, ← Setting.findSome?_failure_shape, hnorm,
    Setting.findSome?_failure_shape]
  rfl

end HtmlMarkdown
