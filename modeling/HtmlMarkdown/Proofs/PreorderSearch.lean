import HtmlMarkdown.Markup.Node

namespace HtmlMarkdown

namespace Node

mutual
/-- The nodes of a tree in document order. -/
def preorder : Node → List Node
  | ⟨k, nm, v, a, cs⟩ => ⟨k, nm, v, a, cs⟩ :: preorders cs

def preorders : List Node → List Node
  | [] => []
  | c :: cs => preorder c ++ preorders cs
end

def descendants (n : Node) : List Node := preorders n.children

theorem preorder_eq (n : Node) : n.preorder = n :: n.descendants := by
  cases n
  rfl

theorem preorders_append (xs ys : List Node) :
    preorders (xs ++ ys) = preorders xs ++ preorders ys := by
  induction xs with
  | nil => rfl
  | cons x xs ih => rw [List.cons_append, preorders, preorders, ih, List.append_assoc]

theorem preorders_pop (n : Node) (stack : List Node) :
    preorders (n :: stack) = n :: preorders (n.children ++ stack) := by
  rw [preorders, preorder_eq, descendants, preorders_append, List.cons_append]

theorem findOnStack_eq_find_preorders (p : Node → Bool) (stack : List Node) :
    findOnStack p stack = (preorders stack).find? p := by
  fun_induction findOnStack p stack with
  | case1 => rfl
  | case2 n stack hp => rw [preorders_pop, List.find?_cons_of_pos hp]
  | case3 n stack hp ih => rw [ih, preorders_pop, List.find?_cons_of_neg hp]

/-- The walk with a stack finds the first proper descendant in document order that satisfies `p`. -/
theorem findDescendantByStack_eq_find_descendants (p : Node → Bool) (n : Node) :
    n.findDescendantByStack p = n.descendants.find? p :=
  findOnStack_eq_find_preorders p n.children

-- the `b` inside the first child comes before the second child, itself a `b`
example :
    (⟨.element, "div", "", [],
      [⟨.element, "a", "", [], [⟨.element, "b", "", [], [text "x"]⟩]⟩,
        ⟨.element, "b", "", [], []⟩]⟩ : Node).findDescendantByStack (·.isTag "b") =
      some ⟨.element, "b", "", [], [text "x"]⟩ := by
  simp [findDescendantByStack, findOnStack, isTag, isElement, text]

mutual
theorem findDescendant?_eq_find_descendants (p : Node → Bool) :
    ∀ n : Node, n.findDescendant? p = n.descendants.find? p
  | ⟨_, _, _, _, cs⟩ => findIn?_eq_find_preorders p cs

theorem findIn?_eq_find_preorders (p : Node → Bool) :
    ∀ cs : List Node, findIn? p cs = (preorders cs).find? p
  | [] => rfl
  | c :: cs => by
    rw [findIn?, preorders, preorder_eq, List.cons_append]
    by_cases hc : p c
    · rw [if_pos hc, List.find?_cons_of_pos hc]
    · -- past `c`, its own descendants come before the trees after it
      rw [if_neg hc, List.find?_cons_of_neg hc, List.find?_append,
        findDescendant?_eq_find_descendants p c, findIn?_eq_find_preorders p cs]
end

theorem findDescendantByStack_eq_findDescendant? (p : Node → Bool) (n : Node) :
    n.findDescendantByStack p = n.findDescendant? p := by
  rw [findDescendant?_eq_find_descendants, findDescendantByStack, descendants]
  exact findOnStack_eq_find_preorders p n.children

theorem hasDescendant_eq_isSome_findDescendantByStack (n : Node) (tag : String) :
    n.hasDescendant tag = (n.findDescendantByStack (·.isTag tag)).isSome := by
  rw [hasDescendant, findDescendantByStack_eq_findDescendant?]

/-- A node has a descendant with a tag exactly when a proper descendant is an element with it. -/
theorem hasDescendant_iff (n : Node) (tag : String) :
    n.hasDescendant tag = true ↔ ∃ m ∈ n.descendants, m.isTag tag = true := by
  rw [hasDescendant, findDescendant?_eq_find_descendants, List.find?_isSome]

mutual
def placedDescendants : Node → List (List Nat × Node)
  | ⟨_, _, _, _, cs⟩ => placedIn 0 cs

def placedIn (i : Nat) : List Node → List (List Nat × Node)
  | [] => []
  | c :: cs =>
    ([i], c) :: (placedDescendants c).map (Prod.map (i :: ·) id) ++ placedIn (i + 1) cs
end

mutual
theorem map_snd_placedDescendants : ∀ n : Node, (placedDescendants n).map Prod.snd = n.descendants
  | ⟨_, _, _, _, cs⟩ => map_snd_placedIn 0 cs

theorem map_snd_placedIn (i : Nat) :
    ∀ cs : List Node, (placedIn i cs).map Prod.snd = preorders cs
  | [] => rfl
  | c :: cs => by
    have hc : ((placedDescendants c).map (Prod.map (i :: ·) id)).map Prod.snd = c.descendants := by
      rw [List.map_map]
      exact map_snd_placedDescendants c
    rw [placedIn, preorders, preorder_eq, List.map_append, List.map_cons, hc, map_snd_placedIn]
end

mutual
theorem firstPath?_eq_find_placedDescendants (p : Node → Bool) :
    ∀ n : Node, n.firstPath? p = ((placedDescendants n).find? (p ·.2)).map Prod.fst
  | ⟨_, _, _, _, cs⟩ => firstPathIn?_eq_find_placedIn p 0 cs

theorem firstPathIn?_eq_find_placedIn (p : Node → Bool) (i : Nat) :
    ∀ cs : List Node, firstPathIn? p i cs = ((placedIn i cs).find? (p ·.2)).map Prod.fst
  | [] => rfl
  | c :: cs => by
    rw [firstPathIn?, placedIn, List.cons_append]
    by_cases hc : p c
    · rw [if_pos hc, List.find?_cons_of_pos (p := fun x : List Nat × Node => p x.2) hc,
        Option.map_some]
    · -- the places below `c` are its own, each put behind `c`'s position
      have hbelow : (((placedDescendants c).map (Prod.map (i :: ·) id)).find? (p ·.2)).map
          Prod.fst = (c.firstPath? p).map (i :: ·) := by
        rw [List.find?_map, Option.map_map, firstPath?_eq_find_placedDescendants p c,
          Option.map_map]
        rfl
      rw [if_neg hc, List.find?_cons_of_neg (p := fun x : List Nat × Node => p x.2) hc,
        List.find?_append, Option.map_or, hbelow, firstPathIn?_eq_find_placedIn p (i + 1) cs]
end

theorem firstPath?_place_of_findDescendantByStack (p : Node → Bool) (n : Node) :
    ((placedDescendants n).find? (p ·.2)).map Prod.fst = n.firstPath? p ∧
      ((placedDescendants n).find? (p ·.2)).map Prod.snd = n.findDescendantByStack p := by
  refine ⟨(firstPath?_eq_find_placedDescendants p n).symm, ?_⟩
  rw [findDescendantByStack, findOnStack_eq_find_preorders, ← descendants,
    ← map_snd_placedDescendants, List.find?_map]
  rfl

-- the first `b` is the first child of the first child
example :
    (⟨.element, "div", "", [],
      [⟨.element, "a", "", [], [⟨.element, "b", "", [], [text "x"]⟩]⟩,
        ⟨.element, "b", "", [], []⟩]⟩ : Node).firstPath? (·.isTag "b") = some [0, 0] := by
  simp [firstPath?, firstPathIn?, isTag, isElement]

end Node

end HtmlMarkdown
