import HtmlMarkdown.Markup.Node

namespace HtmlMarkdown

namespace Node

/-- Each node on the stack reaches at most `k` levels down from its own level. -/
def Reaches (stack : List (Node × Nat)) (deepest k : Nat) : Prop :=
  deepest ≤ k ∧ ∀ p ∈ stack, p.2 + maxDepths p.1.children ≤ k

theorem add_maxDepths_le_iff {d k : Nat} {cs : List Node} :
    d + maxDepths cs ≤ k ↔ d ≤ k ∧ ∀ c ∈ cs, d + c.maxDepth ≤ k := by
  induction cs with
  | nil => simp [maxDepths]
  | cons c cs ih =>
    rw [maxDepths, ← Nat.add_max_add_left, Nat.max_le, ih]
    simp only [List.mem_cons, forall_eq_or_imp, and_left_comm]

theorem reaches_pop_iff {n : Node} {d deepest k : Nat} {stack : List (Node × Nat)} :
    Reaches ((n, d) :: stack) deepest k ↔
      Reaches ((n.children.map (·, d + 1)).reverse ++ stack) (max deepest d) k := by
  have hn : d + maxDepths n.children ≤ k ↔
      d ≤ k ∧ ∀ c ∈ n.children, d + 1 + maxDepths c.children ≤ k := by
    rw [add_maxDepths_le_iff]
    simp only [maxDepth_eq, Nat.add_assoc]
  simp only [Reaches, List.mem_cons, List.mem_append, List.mem_reverse, List.mem_map, or_imp,
    forall_and, forall_eq, forall_exists_index, and_imp, forall_apply_eq_imp_iff₂, hn, Nat.max_le,
    and_assoc]

theorem deepestOnStack_le_iff {stack : List (Node × Nat)} {deepest k : Nat} :
    deepestOnStack stack deepest ≤ k ↔ Reaches stack deepest k := by
  fun_induction deepestOnStack stack deepest with
  | case1 deepest => simp [Reaches]
  | case2 n d stack deepest ih =>
    -- the recursion pushes the children through `attach`; read them back as plain pairs
    rw [List.map_subtype (g := (·, d + 1)) (fun _ _ => rfl), List.unattach_attach] at ih
    rw [ih, reaches_pop_iff]

theorem maxDepthByStack_eq_maxDepth (n : Node) : n.maxDepthByStack = n.maxDepth := by
  have h : ∀ k, n.maxDepthByStack ≤ k ↔ n.maxDepth ≤ k := by
    intro k
    rw [maxDepthByStack, deepestOnStack_le_iff, maxDepth_eq]
    simp [Reaches]
  exact Nat.le_antisymm ((h _).2 (Nat.le_refl _)) ((h _).1 (Nat.le_refl _))

theorem maxDepths_eq_foldr (cs : List Node) : maxDepths cs = (cs.map maxDepth).foldr max 0 := by
  induction cs with
  | nil => rfl
  | cons c cs ih => simp [maxDepths, ih]

/-- The depth found with a stack is one more than the deepest child's, and one for a leaf. -/
theorem maxDepthByStack_eq_succ_children (n : Node) :
    n.maxDepthByStack = 1 + (n.children.map maxDepthByStack).foldr max 0 := by
  have hfun : maxDepthByStack = maxDepth := funext maxDepthByStack_eq_maxDepth
  rw [hfun, maxDepth_eq, maxDepths_eq_foldr]

-- a list of two items, each with a text: three levels
example : (⟨.element, "ul", "", [], [⟨.element, "li", "", [], [text "a"]⟩,
    ⟨.element, "li", "", [], [text "b"]⟩]⟩ : Node).maxDepthByStack = 3 := by
  simp [maxDepthByStack, deepestOnStack, text]

end Node

end HtmlMarkdown
