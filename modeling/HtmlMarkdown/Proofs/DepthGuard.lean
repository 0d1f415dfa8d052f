import HtmlMarkdown.Convert.Service

namespace HtmlMarkdown

namespace Html

mutual
def elementTree (name : String) (attrs : List (String × String)) (children : List Parsed) : Node :=
  Node.element name (attrs.map fun (k, v) => (k, unshieldAsBrackets v)) (childTrees children)
termination_by (sizeOf children, 1)

def childTrees : List Parsed → List Node
  | [] => []
  | .element name attrs cs :: rest => elementTree name attrs cs :: childTrees rest
  | .text data :: rest => .text (rawText data) :: childTrees rest
  | .comment data :: rest => .comment (unshieldAsReferences data) :: childTrees rest
  | .other :: rest => childTrees rest
termination_by cs => (sizeOf cs, 0)
decreasing_by
  all_goals simp_wf
  all_goals omega
end

theorem maxDepth_elementTree (name : String) (attrs : List (String × String))
    (cs : List Parsed) :
    (elementTree name attrs cs).maxDepth = 1 + Node.maxDepths (childTrees cs) := by
  rw [elementTree]
  rfl

theorem checkDepth_of_le {depth m : Nat} (h : depth ≤ m) : checkDepth depth m = pure () :=
  if_neg (Nat.not_lt.2 h)

theorem checkDepth_succ {m : Nat} : checkDepth (m + 1) m = .error ⟨m + 1, m⟩ :=
  if_pos (Nat.lt_succ_self m)

theorem maxDepths_cons_le_iff {depth m : Nat} {n : Node} {ns : List Node} :
    depth + Node.maxDepths (n :: ns) ≤ m ↔
      depth + n.maxDepth ≤ m ∧ depth + Node.maxDepths ns ≤ m := by
  rw [Node.maxDepths]
  omega

theorem readChildren_leaf {depth m : Nat} (h : depth ≤ m) {n : Node} (hn : n.maxDepth = 1)
    {rest : Except DepthExceeded (List Node)} {ns : List Node}
    (hrest : rest = if depth + Node.maxDepths ns ≤ m then .ok ns else .error ⟨m + 1, m⟩) :
    (do checkDepth (depth + 1) m; let ns ← rest; pure (n :: ns)) =
      if depth + Node.maxDepths (n :: ns) ≤ m then .ok (n :: ns) else .error ⟨m + 1, m⟩ := by
  by_cases hd : depth + 1 ≤ m
  · -- the leaf fits, so the rest decides
    rw [checkDepth_of_le hd, hrest]
    by_cases hr : depth + Node.maxDepths ns ≤ m
    · rw [if_pos hr, if_pos (maxDepths_cons_le_iff.2 ⟨hn ▸ hd, hr⟩)]
      rfl
    · rw [if_neg hr, if_neg fun h' => hr (maxDepths_cons_le_iff.1 h').2]
      rfl
  · -- the parent fits and the leaf does not: the leaf lies at the first level past the limit
    have hdepth : depth = m := by omega
    subst hdepth
    rw [checkDepth_succ, if_neg fun h' => hd (hn ▸ (maxDepths_cons_le_iff.1 h').1)]
    rfl

mutual
theorem readElement_eq {depth m : Nat} (h : depth ≤ m + 1) (name : String)
    (attrs : List (String × String)) (cs : List Parsed) :
    readElement depth m name attrs cs =
      if depth + (elementTree name attrs cs).maxDepth ≤ m + 1 then .ok (elementTree name attrs cs)
      else .error ⟨m + 1, m⟩ := by
  rw [readElement, maxDepth_elementTree]
  by_cases hd : depth ≤ m
  · -- the element fits, and its children decide
    rw [checkDepth_of_le hd]
    show (readChildren depth m cs >>= fun kids => pure _) = _
    rw [readChildren_eq hd cs]
    by_cases hc : depth + Node.maxDepths (childTrees cs) ≤ m
    · rw [if_pos hc, if_pos (by omega), elementTree]
      rfl
    · rw [if_neg hc, if_neg (by omega)]
      rfl
  · -- the element itself lies at the first level past the limit
    have hdepth : depth = m + 1 := by omega
    subst hdepth
    rw [checkDepth_succ, if_neg (by omega)]
    rfl
termination_by (sizeOf cs, 1)

theorem readChildren_eq {depth m : Nat} (h : depth ≤ m) (cs : List Parsed) :
    readChildren depth m cs =
      if depth + Node.maxDepths (childTrees cs) ≤ m then .ok (childTrees cs)
      else .error ⟨m + 1, m⟩ := by
  match cs with
  | [] =>
    rw [readChildren, childTrees, if_pos (by simpa [Node.maxDepths] using h)]
    rfl
  | .element name attrs cs :: rest =>
    rw [readChildren, childTrees, readElement_eq (by omega) name attrs cs, readChildren_eq h rest]
    by_cases he : depth + 1 + (elementTree name attrs cs).maxDepth ≤ m + 1
    · -- the element fits, and the rest decides
      have he' : depth + (elementTree name attrs cs).maxDepth ≤ m := by omega
      rw [if_pos he]
      by_cases hr : depth + Node.maxDepths (childTrees rest) ≤ m
      · rw [if_pos hr, if_pos (maxDepths_cons_le_iff.2 ⟨he', hr⟩)]
        rfl
      · rw [if_neg hr, if_neg fun h' => hr (maxDepths_cons_le_iff.1 h').2]
        rfl
    · have hall : ¬depth + Node.maxDepths (elementTree name attrs cs :: childTrees rest) ≤ m :=
        fun h' => he (by have := (maxDepths_cons_le_iff.1 h').1; omega)
      rw [if_neg he, if_neg hall]
      rfl
  | .text data :: rest =>
    rw [readChildren, childTrees]
    exact readChildren_leaf h rfl (readChildren_eq h rest)
  | .comment data :: rest =>
    rw [readChildren, childTrees]
    exact readChildren_leaf h rfl (readChildren_eq h rest)
  | .other :: rest =>
    rw [readChildren, childTrees]
    exact readChildren_eq h rest
termination_by (sizeOf cs, 0)
decreasing_by
  all_goals simp_wf
  all_goals omega
end

theorem readElement_one (m : Nat) (name : String) (attrs : List (String × String))
    (cs : List Parsed) :
    readElement 1 m name attrs cs =
      if (elementTree name attrs cs).maxDepth ≤ m then .ok (elementTree name attrs cs)
      else .error ⟨m + 1, m⟩ := by
  rw [readElement_eq (by omega)]
  exact ite_congr (propext (by omega)) (fun _ => rfl) (fun _ => rfl)

/-- The tree that markup parses to, read back without a depth limit. -/
def markupTree (html : String) : Node :=
  let r := rootOf html
  elementTree r.name r.attrs r.children

end Html

theorem parseMarkup_eq (html : String) (m : Nat) :
    parseMarkup html m =
      if (Html.markupTree html).maxDepth ≤ m then .ok (Html.markupTree html)
      else .error ⟨m + 1, m⟩ :=
  Html.readElement_one m _ _ _

/-- Converting a tree fails on its depth before anything else. -/
theorem Service.convert_eq (svc : Service) (n : Node) :
    svc.convert n =
      if n.maxDepth ≤ svc.options.maxDepth then svc.render n
      else .error (.depthLimitExceeded n.maxDepth svc.options.maxDepth) := by
  rw [Service.convert]
  by_cases h : n.maxDepth ≤ svc.options.maxDepth
  · rw [if_neg (Nat.not_lt.2 h), if_pos h]
  · rw [if_pos (Nat.lt_of_not_le h), if_neg h]

/-- The depth guard of parsing agrees with the depth of the tree read without it. -/
theorem depthGuard_agrees_with_maxDepth :
    (∀ (m : Nat) (name : String) (attrs : List (String × String)) (cs : List Html.Parsed),
      Html.readElement 1 m name attrs cs =
        if (Html.elementTree name attrs cs).maxDepth ≤ m then .ok (Html.elementTree name attrs cs)
        else .error ⟨m + 1, m⟩) ∧
    ∀ (svc : Service) (html : String),
      svc.convertHtml html =
          (if (Html.markupTree html).maxDepth ≤ svc.options.maxDepth then
            svc.convert (Html.markupTree html)
          else .error (.depthLimitExceeded (svc.options.maxDepth + 1) svc.options.maxDepth)) ∧
        svc.convert (Html.markupTree html) =
          (if (Html.markupTree html).maxDepth ≤ svc.options.maxDepth then
            svc.render (Html.markupTree html)
          else
            .error (.depthLimitExceeded (Html.markupTree html).maxDepth svc.options.maxDepth)) := by
  refine ⟨Html.readElement_one, fun svc html => ⟨?_, svc.convert_eq _⟩⟩
  rw [Service.convertHtml, parseHtml, parseMarkup_eq]
  by_cases h : (Html.markupTree html).maxDepth ≤ svc.options.maxDepth
  · rw [if_pos h, if_pos h, svc.convert_eq, if_pos h]
    rfl
  · rw [if_neg h, if_neg h]
    rfl

end HtmlMarkdown
