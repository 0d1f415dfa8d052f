import Mathlib.Data.List.Induction
import Mathlib.Tactic.Set
import HtmlMarkdown.Convert.Rule

namespace HtmlMarkdown

namespace Registry

/-- A call that changes a registry. -/
inductive Call where
  | register (tag : String) (rule : Rule)
  | keep (tags : List String)
  | remove (tags : List String)

def Call.apply (reg : Registry) : Call → Registry
  | .register tag rule => reg.register tag rule
  | .keep tags => reg.keep tags
  | .remove tags => reg.remove tags

def Call.bindings : Call → List (String × Rule)
  | .register tag rule => [(tag, rule)]
  | .keep tags => tags.map (·, .passThrough)
  | .remove tags => tags.map (·, .drop)

/-- The registry after a session of calls on the built-in one. -/
def session (calls : List Call) : Registry := calls.foldl Call.apply builtIn

def bind (reg : Registry) (b : String × Rule) : Registry := reg.register b.1 b.2

theorem find?_map_of_fst {f : String × Rule → String × Rule} (hf : ∀ e, (f e).1 = e.1)
    (entries : List (String × Rule)) (k : String) :
    (entries.map f).find? (·.1 == k) = (entries.find? (·.1 == k)).map f := by
  rw [List.find?_map]
  congr 2
  funext e
  simp [hf]

theorem find?_bindKey (entries : List (String × Rule)) (key k : String) (rule : Rule) :
    (bindKey entries key rule).find? (·.1 == k) =
      if key = k then some (key, rule) else entries.find? (·.1 == k) := by
  unfold bindKey
  split
  · next hany =>
    -- the key keeps its place: its entries take the rule, the others stay
    rw [find?_map_of_fst]
    · split
      · next hk =>
        subst hk
        obtain ⟨e, he⟩ :=
          Option.isSome_iff_exists.1 (List.find?_isSome.2 (List.any_eq_true.1 hany))
        obtain ⟨ek, er⟩ := e
        have he1 : ek = key := by simpa using List.find?_some he
        rw [he, Option.map_some]
        simp [he1]
      · next hk =>
        cases he : entries.find? (·.1 == k) with
        | none => rfl
        | some e =>
          obtain ⟨ek, er⟩ := e
          have he1 : ek = k := by simpa using List.find?_some he
          have hne : ek ≠ key := he1 ▸ Ne.symm hk
          simp [hne]
    · intro e
      obtain ⟨ek, er⟩ := e
      dsimp only
      split <;> rfl
  · next hany =>
    -- a new key goes last, behind every other key
    have hnone : entries.find? (·.1 == key) = none := by
      rw [List.find?_eq_none]
      intro e he hek
      exact hany (List.any_eq_true.2 ⟨e, he, hek⟩)
    rw [List.find?_append]
    by_cases hkk : key = k
    · subst hkk
      simp [hnone]
    · simp [hkk]

theorem get?_register (reg : Registry) (tag k : String) (rule : Rule) :
    (reg.register tag rule).get? k = if lowercase tag = k then some rule else reg.get? k := by
  unfold get? register
  rw [find?_bindKey]
  split <;> simp

theorem map_fst_bindKey (entries : List (String × Rule)) (key : String) (rule : Rule) :
    (bindKey entries key rule).map (·.1) =
      if key ∈ entries.map (·.1) then entries.map (·.1) else entries.map (·.1) ++ [key] := by
  unfold bindKey
  have hany : entries.any (·.1 == key) = true ↔ key ∈ entries.map (·.1) := by simp
  by_cases h : key ∈ entries.map (·.1)
  · rw [if_pos (hany.2 h), if_pos h, List.map_map]
    congr 1
    funext e
    simp only [Function.comp_apply]
    split <;> rfl
  · rw [if_neg (mt hany.1 h), if_neg h, List.map_append]
    rfl

theorem tags_register (reg : Registry) (tag : String) (rule : Rule) :
    (reg.register tag rule).tags =
      if lowercase tag ∈ reg.tags then reg.tags else reg.tags ++ [lowercase tag] :=
  map_fst_bindKey reg.entries (lowercase tag) rule

theorem Call.apply_eq_foldl (reg : Registry) (c : Call) :
    c.apply reg = c.bindings.foldl bind reg := by
  cases c with
  | register tag rule => rfl
  | keep tags => rw [Call.bindings, List.foldl_map]; rfl
  | remove tags => rw [Call.bindings, List.foldl_map]; rfl

theorem session_eq_foldl (calls : List Call) :
    session calls = (calls.flatMap Call.bindings).foldl bind builtIn := by
  rw [session, List.foldl_flatMap]
  congr 1
  funext reg c
  exact Call.apply_eq_foldl reg c

theorem get?_foldl_bind (reg : Registry) (bs : List (String × Rule)) (k : String) :
    (bs.foldl bind reg).get? k =
      ((bs.reverse.find? fun b => lowercase b.1 == k).map (·.2)).or (reg.get? k) := by
  induction bs using List.reverseRecOn with
  | nil => simp
  | append_singleton bs b ih =>
    rw [List.foldl_append, List.foldl_cons, List.foldl_nil, bind, get?_register, ih,
      List.reverse_concat]
    by_cases hb : lowercase b.1 = k
    · rw [if_pos hb, List.find?_cons_of_pos (by simpa using hb)]
      rfl
    · rw [if_neg hb, List.find?_cons_of_neg (by simpa using hb)]

theorem tags_foldl_bind (reg : Registry) (bs : List (String × Rule)) :
    (bs.foldl bind reg).tags =
      reg.tags ++ ((bs.map fun b => lowercase b.1).removeAll reg.tags).eraseDups := by
  induction bs using List.reverseRecOn with
  | nil => simp
  | append_singleton bs b ih =>
    rw [List.foldl_append, List.foldl_cons, List.foldl_nil, bind, tags_register, ih]
    set fresh := (bs.map fun b => lowercase b.1).removeAll reg.tags
    have hmem : lowercase b.1 ∈ reg.tags ++ fresh.eraseDups ↔
        lowercase b.1 ∈ reg.tags ∨ lowercase b.1 ∈ fresh := by
      simp [List.mem_eraseDups]
    have hsplit : ((bs ++ [b]).map fun b => lowercase b.1).removeAll reg.tags =
        fresh ++ [lowercase b.1].removeAll reg.tags := by
      simp [fresh, List.removeAll, List.filter_append]
    rw [hsplit, List.eraseDups_append]
    by_cases hold : lowercase b.1 ∈ reg.tags
    · -- a built-in or earlier key keeps its place
      rw [if_pos (hmem.2 (.inl hold))]
      simp [List.removeAll, hold]
    · by_cases hseen : lowercase b.1 ∈ fresh
      · rw [if_pos (hmem.2 (.inr hseen))]
        simp [List.removeAll, hold, hseen]
      · -- a key bound for the first time goes last
        rw [if_neg (by simpa [hold] using hmem.not.2 (by simp [hold, hseen]))]
        simp [List.removeAll, hold, hseen, List.eraseDups_cons]

theorem get?_eq_lookup (reg : Registry) (k : String) : reg.get? k = reg.entries.lookup k := by
  obtain ⟨entries⟩ := reg
  induction entries with
  | nil => rfl
  | cons e es ih =>
    obtain ⟨ek, er⟩ := e
    by_cases h : ek = k
    · subst h
      simp [get?]
    · have hne : (k == ek) = false := by simpa using Ne.symm h
      have hne' : (ek == k) = false := by simpa using h
      simp only [get?, List.find?_cons, hne', List.lookup_cons, hne] at ih ⊢
      exact ih

/-- Over any session from the built-in registry, a key has its last binding's rule, and tags stay in
order of first binding. -/
theorem session_lookup_and_order (calls : List Call) :
    (∀ k, (session calls).get? k =
        (((calls.flatMap Call.bindings).reverse.find? fun b => lowercase b.1 == k).map (·.2)).or
          (builtIn.entries.lookup k)) ∧
      (session calls).tags = builtIn.tags ++
        (((calls.flatMap Call.bindings).map fun b => lowercase b.1).removeAll
          builtIn.tags).eraseDups := by
  rw [session_eq_foldl]
  exact ⟨fun k => by rw [get?_foldl_bind, get?_eq_lookup], tags_foldl_bind builtIn _⟩

end Registry

end HtmlMarkdown
