import HtmlMarkdown.Proofs.TreeShape
import Mathlib

namespace HtmlMarkdown

section OptionRel

variable {α : Type} {R : α → α → Prop} {a a' b b' : Option α}

theorem optionRel_or (ha : Option.Rel R a a') (hb : Option.Rel R b b') :
    Option.Rel R (a.or b) (a'.or b') := by
  cases ha with
  | some h => exact .some h
  | none => exact hb

theorem optionRel_isSome (h : Option.Rel R a a') : a'.isSome = a.isSome := by
  cases h <;> rfl

end OptionRel

namespace Node

mutual
/-- `n'` is `n` with empty texts put before block-level children or at the end, at every level. -/
inductive Padded : Node → Node → Prop
  | mk {n n' : Node} : n'.kind = n.kind → n'.name = n.name → n'.value = n.value →
      n'.attrs = n.attrs → PaddedList n.children n'.children → Padded n n'

/-- Children padded one by one, with empty texts put before block-level elements or at the end. -/
inductive PaddedList : List Node → List Node → Prop
  | nil : PaddedList [] []
  | cons {c c' : Node} {cs cs' : List Node} : Padded c c' → PaddedList cs cs' →
      PaddedList (c :: cs) (c' :: cs')
  | blank {cs cs' : List Node} : (∀ n ∈ cs.head?, n.isBlockElement = true) →
      PaddedList cs cs' → PaddedList cs (text "" :: cs')
end

inductive PaddedPrefix : List Node → List Node → Prop
  | nil : PaddedPrefix [] []
  | cons {c c' : Node} {cs cs' : List Node} : Padded c c' → PaddedPrefix cs cs' →
      PaddedPrefix (c :: cs) (c' :: cs')
  | blank {cs cs' : List Node} : PaddedPrefix cs cs' → PaddedPrefix cs (text "" :: cs')

mutual
theorem Padded.refl : ∀ n : Node, n.Padded n
  | ⟨_, _, _, _, cs⟩ => .mk rfl rfl rfl rfl (PaddedList.refl cs)

theorem PaddedList.refl : ∀ cs : List Node, PaddedList cs cs
  | [] => .nil
  | c :: cs => .cons (Padded.refl c) (PaddedList.refl cs)
end

theorem PaddedList.toPrefix {cs cs' : List Node} : PaddedList cs cs' → PaddedPrefix cs cs'
  | .nil => .nil
  | .cons hc h => .cons hc h.toPrefix
  | .blank _ h => .blank h.toPrefix

theorem PaddedPrefix.snoc {cs cs' : List Node} {c c' : Node} (hc : c.Padded c') :
    PaddedPrefix cs cs' → PaddedPrefix (cs ++ [c]) (cs' ++ [c'])
  | .nil => .cons hc .nil
  | .cons hd h => .cons hd (h.snoc hc)
  | .blank h => .blank (h.snoc hc)

theorem PaddedPrefix.snoc_blank {cs cs' : List Node} :
    PaddedPrefix cs cs' → PaddedPrefix cs (cs' ++ [text ""])
  | .nil => .blank .nil
  | .cons hd h => .cons hd h.snoc_blank
  | .blank h => .blank h.snoc_blank

section Fields

variable {n n' : Node}

theorem Padded.children {n n' : Node} : n.Padded n' → PaddedList n.children n'.children
  | .mk _ _ _ _ h => h

theorem Padded.name_eq (h : n.Padded n') : n'.name = n.name := by
  obtain ⟨-, hn, -, -, -⟩ := h
  exact hn

theorem Padded.value_eq (h : n.Padded n') : n'.value = n.value := by
  obtain ⟨-, -, hv, -, -⟩ := h
  exact hv

theorem Padded.isElement_eq (h : n.Padded n') : n'.isElement = n.isElement := by
  obtain ⟨hk, -, -, -, -⟩ := h
  simp only [isElement, hk]

theorem Padded.isText_eq (h : n.Padded n') : n'.isText = n.isText := by
  obtain ⟨hk, -, -, -, -⟩ := h
  simp only [isText, hk]

theorem Padded.isTag_eq (h : n.Padded n') (t : String) : n'.isTag t = n.isTag t := by
  rw [isTag, isTag, h.isElement_eq, h.name_eq]

theorem Padded.isBlankText_eq (h : n.Padded n') : n'.isBlankText = n.isBlankText := by
  rw [isBlankText, isBlankText, h.isText_eq, h.value_eq]

theorem Padded.isBlockElement_eq (h : n.Padded n') : n'.isBlockElement = n.isBlockElement := by
  rw [isBlockElement, isBlockElement, h.isElement_eq, h.name_eq]

theorem Padded.attr?_eq (h : n.Padded n') (name : String) : n'.attr? name = n.attr? name := by
  obtain ⟨-, -, -, ha, -⟩ := h
  rw [attr?, attr?, ha]

theorem Padded.hasAttr_eq (h : n.Padded n') (name : String) : n'.hasAttr name = n.hasAttr name := by
  rw [hasAttr, hasAttr, h.attr?_eq]

end Fields

section Lists

variable {cs cs' : List Node} {p : Node → Bool}

theorem PaddedPrefix.all_eq (hp : ∀ {a a'}, a.Padded a' → p a' = p a) (hb : p (text "") = true)
    (h : PaddedPrefix cs cs') : cs'.all p = cs.all p := by
  induction h with
  | nil => rfl
  | cons hc _ ih => rw [List.all_cons, List.all_cons, hp hc, ih]
  | blank _ ih => rw [List.all_cons, hb, Bool.true_and, ih]

theorem PaddedPrefix.any_eq (hp : ∀ {a a'}, a.Padded a' → p a' = p a) (hb : p (text "") = false)
    (h : PaddedPrefix cs cs') : cs'.any p = cs.any p := by
  induction h with
  | nil => rfl
  | cons hc _ ih => rw [List.any_cons, List.any_cons, hp hc, ih]
  | blank _ ih => rw [List.any_cons, hb, Bool.false_or, ih]

/-- Keeping the children that the empty text fails leaves children padded one by one. -/
theorem PaddedPrefix.filter (hp : ∀ {a a'}, a.Padded a' → p a' = p a) (hb : p (text "") = false)
    (h : PaddedPrefix cs cs') : List.Forall₂ Padded (cs.filter p) (cs'.filter p) := by
  induction h with
  | nil => exact .nil
  | @cons c c' _ _ hc _ ih =>
    rw [List.filter_cons, List.filter_cons, hp hc]
    by_cases hpc : p c = true
    · rw [if_pos hpc, if_pos hpc]
      exact .cons hc ih
    · rw [if_neg hpc, if_neg hpc]
      exact ih
  | blank _ ih =>
    rw [List.filter_cons, hb]
    exact ih

theorem PaddedPrefix.length_filter (hp : ∀ {a a'}, a.Padded a' → p a' = p a)
    (hb : p (text "") = false) (h : PaddedPrefix cs cs') :
    (cs'.filter p).length = (cs.filter p).length :=
  (h.filter hp hb).length_eq.symm

end Lists

theorem textContent_eq (n : Node) :
    n.textContent = match n.kind with
      | .text => n.value
      | .comment => ""
      | _ => textContents n.children := by
  obtain ⟨k, _, _, _, _⟩ := n
  cases k <;> rfl

theorem outerHtml_eq (n : Node) :
    n.outerHtml = match n.kind with
      | .text => n.value
      | .comment => "<!--" ++ n.value ++ "-->"
      | .element =>
        if voidTags.contains n.name then "<" ++ n.name ++ attributesText n.attrs ++ ">"
        else "<" ++ n.name ++ attributesText n.attrs ++ ">" ++ outerHtmls n.children ++ "</" ++
          n.name ++ ">"
      | _ => outerHtmls n.children := by
  obtain ⟨k, _, _, _, _⟩ := n
  cases k <;> rfl

section Below

variable {p : Node → Bool}

mutual
theorem Padded.findDescendant? (hp : ∀ {a a'}, a.Padded a' → p a' = p a)
    (hb : p (text "") = false) :
    ∀ {n n' : Node}, n.Padded n' → Option.Rel Padded (n.findDescendant? p) (n'.findDescendant? p)
  | n, n', .mk _ _ _ _ hcs => by
    rw [findDescendant?_eq, findDescendant?_eq]
    exact hcs.findIn? hp hb

theorem PaddedList.findIn? (hp : ∀ {a a'}, a.Padded a' → p a' = p a)
    (hb : p (text "") = false) :
    ∀ {cs cs' : List Node}, PaddedList cs cs' → Option.Rel Padded (findIn? p cs) (findIn? p cs')
  | _, _, .nil => .none
  | c :: _, _, .cons hc h => by
    rw [Node.findIn?, Node.findIn?, hp hc]
    by_cases hpc : p c = true
    · rw [if_pos hpc, if_pos hpc]
      exact .some hc
    · rw [if_neg hpc, if_neg hpc]
      exact optionRel_or (hc.findDescendant? hp hb) (h.findIn? hp hb)
  | _, _, .blank _ h => by
    rw [Node.findIn?, hb, if_neg Bool.false_ne_true]
    exact h.findIn? hp hb
end

theorem Padded.hasDescendant_eq {n n' : Node} (h : n.Padded n') (t : String) :
    n'.hasDescendant t = n.hasDescendant t := by
  have hrel := h.findDescendant? (p := (·.isTag t)) (fun ha => ha.isTag_eq t) rfl
  rw [hasDescendant, hasDescendant, optionRel_isSome hrel]

mutual
theorem isSome_firstPath? (n : Node) : (n.firstPath? p).isSome = (n.findDescendant? p).isSome := by
  obtain ⟨_, _, _, _, cs⟩ := n
  rw [firstPath?, findDescendant?]
  exact isSome_firstPathIn? 0 cs

theorem isSome_firstPathIn? (i : Nat) (cs : List Node) :
    (firstPathIn? p i cs).isSome = (findIn? p cs).isSome := by
  match cs with
  | [] =>
    rw [firstPathIn?, Node.findIn?]
    rfl
  | c :: cs =>
    rw [firstPathIn?, Node.findIn?]
    split
    · rfl
    · rw [Option.isSome_or, Option.isSome_or, Option.isSome_map, isSome_firstPath? c,
        isSome_firstPathIn? (i + 1) cs]
end

end Below

mutual
theorem Padded.textContent_eq : ∀ {n n' : Node}, n.Padded n' → n'.textContent = n.textContent
  | n, n', .mk hk _ hv _ hcs => by
    rw [Node.textContent_eq n', Node.textContent_eq n, hk, hv, hcs.textContents_eq]

theorem PaddedList.textContents_eq :
    ∀ {cs cs' : List Node}, PaddedList cs cs' → textContents cs' = textContents cs
  | _, _, .nil => rfl
  | _, _, .cons hc h => by rw [textContents, textContents, hc.textContent_eq, h.textContents_eq]
  | _, _, .blank _ h => by
    rw [textContents, h.textContents_eq]
    rfl
end

theorem Padded.innerText_eq {n n' : Node} (h : n.Padded n') : n'.innerText = n.innerText := by
  rw [innerText, innerText, h.textContent_eq]

mutual
theorem Padded.outerHtml_eq : ∀ {n n' : Node}, n.Padded n' → n'.outerHtml = n.outerHtml
  | n, n', .mk hk hn hv ha hcs => by
    rw [Node.outerHtml_eq n', Node.outerHtml_eq n, hk, hn, hv, ha, hcs.outerHtmls_eq]

theorem PaddedList.outerHtmls_eq :
    ∀ {cs cs' : List Node}, PaddedList cs cs' → outerHtmls cs' = outerHtmls cs
  | _, _, .nil => rfl
  | _, _, .cons hc h => by rw [outerHtmls, outerHtmls, hc.outerHtml_eq, h.outerHtmls_eq]
  | _, _, .blank _ h => by
    rw [outerHtmls, h.outerHtmls_eq]
    rfl
end

theorem Padded.rendersInline_eq {n n' : Node} (h : n.Padded n') :
    rendersInline n' = rendersInline n := by
  rw [rendersInline, rendersInline, h.isTag_eq, h.hasDescendant_eq, h.innerText_eq]

theorem Padded.hasSpans_eq {n n' : Node} (h : n.Padded n') : hasSpans n' = hasSpans n := by
  have hrel := h.findDescendant? (p := fun d => d.hasAttr "colspan" || d.hasAttr "rowspan")
    (fun ha => by rw [ha.hasAttr_eq, ha.hasAttr_eq]) rfl
  rw [hasSpans, hasSpans, optionRel_isSome hrel]

theorem PaddedPrefix.trailingContent_eq {cs cs' : List Node} (h : PaddedPrefix cs cs') :
    trailingContent cs' = trailingContent cs := by
  induction h with
  | nil => rfl
  | cons hc _ ih =>
    rw [trailingContent, trailingContent, hc.isText_eq, hc.isBlankText_eq, hc.isTag_eq,
      hc.isElement_eq, hc.name_eq, hc.rendersInline_eq, ih]
  | blank _ ih =>
    rw [trailingContent, ih]
    rfl

theorem firstPathIn?_eq_none_iff (p : Node → Bool) (i : Nat) (cs : List Node) :
    firstPathIn? p i cs = none ↔ cs.all (fun x => !p x && (x.firstPath? p).isNone) = true := by
  induction cs generalizing i with
  | nil => simp [firstPathIn?]
  | cons c cs ih =>
    rw [firstPathIn?, List.all_cons]
    by_cases hc : p c = true
    · simp [hc]
    · cases c.firstPath? p <;> simp [hc, ih]

theorem PaddedList.head?_any_isTag_eq {cs cs' : List Node} {kind : List String}
    (hkind : ∀ t ∈ kind, isBlockTag t = false) (h : PaddedList cs cs') :
    cs'.head?.any (fun n => kind.any n.isTag) = cs.head?.any (fun n => kind.any n.isTag) := by
  have hempty : kind.any (text "").isTag = false :=
    List.any_eq_false.2 fun _ _ => Bool.false_ne_true
  cases h with
  | nil => rfl
  | cons hn _ => simp only [List.head?_cons, Option.any_some, funext hn.isTag_eq]
  | @blank cs _ hblock _ =>
    cases cs with
    | nil => simp only [List.head?_cons, List.head?_nil, Option.any_some, Option.any_none, hempty]
    | cons n _ =>
      -- a block-level element has a block tag, which emphasis does not
      have hn : kind.any n.isTag = false := by
        have hb := hblock n rfl
        simp only [isBlockElement, Bool.and_eq_true] at hb
        refine List.any_eq_false.2 fun t ht htag => ?_
        simp only [isTag, Bool.and_eq_true, beq_iff_eq] at htag
        have hblockTag := hkind t ht
        rw [← htag.2, hb.2] at hblockTag
        exact Bool.false_ne_true hblockTag.symm
      simp only [List.head?_cons, Option.any_some, hempty, hn]

section FirstPath

variable {q : Node → Bool}

theorem firstPath?_eq (q : Node → Bool) (n : Node) :
    n.firstPath? q = firstPathIn? q 0 n.children := by
  cases n
  rw [firstPath?]

theorem firstPathIn?_head_ge {j i : Nat} {cs : List Node} {L : List Nat}
    (h : firstPathIn? q j cs = some (i :: L)) : j ≤ i := by
  induction cs generalizing j with
  | nil => simp [firstPathIn?] at h
  | cons c cs ih =>
    rw [firstPathIn?] at h
    split at h
    · simp only [Option.some.injEq, List.cons.injEq] at h
      omega
    · cases hf : c.firstPath? q with
      | some L0 =>
        simp only [hf, Option.map_some, Option.some_or, Option.some.injEq, List.cons.injEq] at h
        omega
      | none =>
        simp only [hf, Option.map_none, Option.none_or] at h
        have := ih h
        omega

theorem firstPathIn?_ne_nil (j : Nat) (cs : List Node) : firstPathIn? q j cs ≠ some [] := by
  induction cs generalizing j with
  | nil => simp [firstPathIn?]
  | cons c cs ih =>
    rw [firstPathIn?]
    split
    · simp
    · cases c.firstPath? q with
      | some L0 => simp
      | none => simpa using ih (j + 1)

theorem firstPath?_ne_nil (n : Node) : n.firstPath? q ≠ some [] := by
  rw [firstPath?_eq]
  exact firstPathIn?_ne_nil 0 _

theorem firstPathIn?_append_cons (j : Nat) {pre post : List Node} {m : Node} {L : List Nat} :
    firstPathIn? q j (pre ++ m :: post) = some ((j + pre.length) :: L) ↔
      firstPathIn? q j pre = none ∧
        (q m = true ∧ L = [] ∨ q m = false ∧ m.firstPath? q = some L) := by
  induction pre generalizing j with
  | nil =>
    rw [List.nil_append, firstPathIn?]
    by_cases hm : q m = true
    · simp [firstPathIn?, hm, eq_comm]
    · -- the node at the split does not answer: the path goes below it or past it
      cases hf : m.firstPath? q with
      | some L0 => simp [firstPathIn?, hm, hf]
      | none =>
        simp only [hm, hf, Bool.false_eq_true, if_false, Option.map_none, Option.none_or,
          firstPathIn?, List.length_nil, Nat.add_zero, true_and, false_and, false_or, reduceCtorEq,
          iff_false]
        intro h
        have := firstPathIn?_head_ge h
        omega
  | cons x pre ih =>
    rw [List.cons_append, firstPathIn?, firstPathIn?, List.length_cons]
    by_cases hx : q x = true
    · simp only [hx, if_true, Option.some.injEq, List.cons.injEq, reduceCtorEq, false_and,
        iff_false, not_and]
      omega
    · cases hf : x.firstPath? q with
      | some L0 =>
        simp only [hx, Bool.false_eq_true, if_false, Option.map_some, Option.some_or,
          Option.some.injEq, List.cons.injEq, reduceCtorEq, false_and, iff_false, not_and]
        omega
      | none =>
        simp only [hx, Bool.false_eq_true, if_false, Option.map_none, Option.none_or]
        rw [← ih (j + 1), Nat.add_assoc, Nat.add_comm 1]

theorem firstPath?_split {n m : Node} {pre post : List Node} (h : n.children = pre ++ m :: post)
    {L : List Nat} :
    n.firstPath? q = some (pre.length :: L) ↔
      firstPathIn? q 0 pre = none ∧
        (q m = true ∧ L = [] ∨ q m = false ∧ m.firstPath? q = some L) := by
  rw [firstPath?_eq, h, ← firstPathIn?_append_cons 0, Nat.zero_add]

theorem PaddedPrefix.firstPathIn?_eq_none_iff (hq : ∀ {a a'}, a.Padded a' → q a' = q a)
    (hqb : q (text "") = false) {pre pre' : List Node} (h : PaddedPrefix pre pre') (j j' : Nat) :
    firstPathIn? q j' pre' = none ↔ firstPathIn? q j pre = none := by
  have hnone : ∀ {a a' : Node}, a.Padded a' →
      (!q a' && (a'.firstPath? q).isNone) = (!q a && (a.firstPath? q).isNone) := fun {a a'} ha => by
    have hsome : (a'.firstPath? q).isSome = (a.firstPath? q).isSome := by
      rw [isSome_firstPath?, isSome_firstPath?, optionRel_isSome (ha.findDescendant? hq hqb)]
    rw [hq ha, ← Option.not_isSome, ← Option.not_isSome, hsome]
  rw [Node.firstPathIn?_eq_none_iff q j' pre', Node.firstPathIn?_eq_none_iff q j pre,
    h.all_eq hnone (by rw [hqb]; rfl)]

end FirstPath

end Node

section Related

variable {α β : Type} {R : α → α → Prop} {l l' : List α}

theorem forall₂_map_eq {f : α → β} (hf : ∀ {a a'}, R a a' → f a' = f a)
    (h : List.Forall₂ R l l') : l'.map f = l.map f := by
  induction h with
  | nil => rfl
  | cons hr _ ih => rw [List.map_cons, List.map_cons, hf hr, ih]

theorem forall₂_any_eq {p : α → Bool} (hp : ∀ {a a'}, R a a' → p a' = p a)
    (h : List.Forall₂ R l l') : l'.any p = l.any p := by
  induction h with
  | nil => rfl
  | cons hr _ ih => rw [List.any_cons, List.any_cons, hp hr, ih]

theorem forall₂_filter {p : α → Bool} (hp : ∀ {a a'}, R a a' → p a' = p a)
    (h : List.Forall₂ R l l') : List.Forall₂ R (l.filter p) (l'.filter p) :=
  List.rel_filter (fun _ _ hr => by simp only [hp hr]) h

theorem forall₂_find? {p : α → Bool} (hp : ∀ {a a'}, R a a' → p a' = p a)
    (h : List.Forall₂ R l l') : Option.Rel R (l.find? p) (l'.find? p) := by
  induction h with
  | nil => exact .none
  | @cons a a' _ _ hr _ ih =>
    rw [List.find?_cons, List.find?_cons, hp hr]
    cases p a with
    | true => exact .some hr
    | false => exact ih

theorem forall₂_head? (h : List.Forall₂ R l l') : Option.Rel R l.head? l'.head? := by
  cases h with
  | nil => exact .none
  | cons hr _ => exact .some hr

theorem forall₂_find?_zipIdx {p : α → Bool} (hp : ∀ {a a'}, R a a' → p a' = p a)
    (h : List.Forall₂ R l l') (j : Nat) :
    ((l.zipIdx j).find? (fun x => p x.1) = none ∧ (l'.zipIdx j).find? (fun x => p x.1) = none) ∨
      ∃ k a a', (l.zipIdx j).find? (fun x => p x.1) = some (a, k + j) ∧
        (l'.zipIdx j).find? (fun x => p x.1) = some (a', k + j) ∧ l[k]? = some a ∧
        l'[k]? = some a' ∧ R a a' := by
  induction h generalizing j with
  | nil => exact .inl ⟨rfl, rfl⟩
  | @cons a a' _ _ hr _ ih =>
    rw [List.zipIdx_cons, List.zipIdx_cons, List.find?_cons, List.find?_cons, hp hr]
    cases hpa : p a with
    | true => exact .inr ⟨0, a, a', by simp, by simp, rfl, rfl, hr⟩
    | false =>
      rcases ih (j + 1) with hnone | ⟨k, b, b', hb, hb', hk, hk', hrb⟩
      · exact .inl hnone
      · refine .inr ⟨k + 1, b, b', ?_, ?_, hk, hk', hrb⟩
        · rw [hb, Nat.add_right_comm, ← Nat.add_assoc]
        · rw [hb', Nat.add_right_comm, ← Nat.add_assoc]

theorem optionRel_congr {a a' : Option α} (h : Option.Rel R a a') {F : Option α → β}
    (hsome : ∀ {x x'}, R x x' → F (some x') = F (some x)) : F a' = F a := by
  cases h with
  | some hr => exact hsome hr
  | none => rfl

end Related

namespace Cursor

/-- Cursors at the same place of a tree and of its padding. -/
inductive Padded : Cursor → Cursor → Prop
  | root {n n' : Node} : n.Padded n' → Padded ⟨n, []⟩ ⟨n', []⟩
  | child {p p' m m' : Node} {path path' : List Step} {pre pre' post post' : List Node} :
      Padded ⟨p, path⟩ ⟨p', path'⟩ → p.children = pre ++ m :: post →
      p'.children = pre' ++ m' :: post' → Node.PaddedPrefix pre pre' → m.Padded m' →
      Node.PaddedList post post' →
      Padded ⟨m, ⟨p, pre.length⟩ :: path⟩ ⟨m', ⟨p', pre'.length⟩ :: path'⟩

/-- The cursors of a padded node's children, with cursors of empty texts put in. -/
inductive PaddedList : List Cursor → List Cursor → Prop
  | nil : PaddedList [] []
  | cons {d d' : Cursor} {ds ds' : List Cursor} : d.Padded d' → PaddedList ds ds' →
      PaddedList (d :: ds) (d' :: ds')
  | blank {d' : Cursor} {ds ds' : List Cursor} : d'.node = .text "" → PaddedList ds ds' →
      PaddedList ds (d' :: ds')

theorem ancestors_cons (m : Node) (s : Step) (path : List Step) :
    (⟨m, s :: path⟩ : Cursor).ancestors =
      ⟨s.parent, path⟩ :: (⟨s.parent, path⟩ : Cursor).ancestors :=
  rfl

theorem nextSibling?_eq (c : Cursor) : c.nextSibling? = c.followingSiblings.head? := by
  rw [nextSibling?, followingSiblings, List.head?_drop]

section Queries

variable {c c' : Cursor}

theorem Padded.node : c.Padded c' → c.node.Padded c'.node
  | .root h => h
  | .child _ _ _ _ hm _ => hm

theorem Padded.tag_eq (h : c.Padded c') : c'.tag = c.tag := h.node.name_eq

theorem Padded.isTag_eq (h : c.Padded c') (t : String) : c'.isTag t = c.isTag t :=
  h.node.isTag_eq t

theorem Padded.hasDescendant_eq (h : c.Padded c') (t : String) :
    c'.hasDescendant t = c.hasDescendant t :=
  h.node.hasDescendant_eq t

theorem Padded.innerText_eq (h : c.Padded c') : c'.innerText = c.innerText := h.node.innerText_eq

theorem Padded.parentTag?_eq : c.Padded c' → c'.parentTag? = c.parentTag?
  | .root _ => rfl
  | .child hp _ _ _ _ _ => by
    have hpp := hp.node
    simp only [parentTag?, List.head?_cons, Option.map_some] at hpp ⊢
    rw [hpp.name_eq]

theorem Padded.hasAncestor_eq (h : c.Padded c') (t : String) :
    c'.hasAncestor t = c.hasAncestor t := by
  induction h with
  | root _ => rfl
  | child hp _ _ _ _ _ ih =>
    have hpp := hp.node
    simp only [hasAncestor, List.any_cons] at hpp ih ⊢
    rw [hpp.isTag_eq, ih]

theorem Padded.countAncestors_eq (h : c.Padded c') (t : String) :
    c'.countAncestors t = c.countAncestors t := by
  induction h with
  | root _ => rfl
  | child hp _ _ _ _ _ ih =>
    have hpp := hp.node
    simp only [countAncestors, List.countP_cons] at hpp ih ⊢
    rw [hpp.isTag_eq, ih]

theorem Padded.ancestors (h : c.Padded c') : List.Forall₂ Padded c.ancestors c'.ancestors := by
  induction h with
  | root _ => exact .nil
  | child hp _ _ _ _ _ ih =>
    rw [ancestors_cons, ancestors_cons]
    exact .cons hp ih

theorem Padded.precedingSiblings :
    c.Padded c' → Node.PaddedPrefix c.precedingSiblings c'.precedingSiblings
  | .root _ => .nil
  | .child _ hp hp' hpre _ _ => by
    simp only [Cursor.precedingSiblings, siblings, index]
    rw [hp, hp', List.take_left' rfl, List.take_left' rfl]
    exact hpre

theorem Padded.followingSiblings :
    c.Padded c' → Node.PaddedList c.followingSiblings c'.followingSiblings
  | .root _ => .nil
  | .child _ hp hp' _ _ hpost => by
    have hdrop : ∀ (l : List Node) (x : Node) (r : List Node),
        (l ++ x :: r).drop (l.length + 1) = r := fun l x r => by
      rw [← List.singleton_append, ← List.append_assoc, List.drop_left' (by simp)]
    simp only [Cursor.followingSiblings, siblings, index]
    rw [hp, hp', hdrop, hdrop]
    exact hpost

theorem Padded.isFirstContentChild_eq (h : c.Padded c') :
    c'.isFirstContentChild = c.isFirstContentChild :=
  h.precedingSiblings.all_eq Node.Padded.isBlankText_eq rfl

theorem Padded.isLastContentChild_eq (h : c.Padded c') :
    c'.isLastContentChild = c.isLastContentChild :=
  h.followingSiblings.toPrefix.all_eq Node.Padded.isBlankText_eq rfl

end Queries

theorem Padded.childrenFrom {n n' : Node} {path path' : List Step}
    (h : Padded ⟨n, path⟩ ⟨n', path'⟩) : ∀ (pre pre' : List Node) {post post' : List Node},
    n.children = pre ++ post → n'.children = pre' ++ post' → Node.PaddedPrefix pre pre' →
    Node.PaddedList post post' →
    PaddedList ((post.zipIdx pre.length).map fun x => ⟨x.1, ⟨n, x.2⟩ :: path⟩)
      ((post'.zipIdx pre'.length).map fun x => ⟨x.1, ⟨n', x.2⟩ :: path'⟩)
  | _, _, _, _, _, _, _, .nil => .nil
  | pre, pre', m :: rest, m' :: rest', hn, hn', hpre, .cons hm hrest => by
    have hnext := h.childrenFrom (pre ++ [m]) (pre' ++ [m']) (by simp [hn]) (by simp [hn'])
      (hpre.snoc hm) hrest
    rw [List.length_append, List.length_singleton, List.length_append, List.length_singleton]
      at hnext
    rw [List.zipIdx_cons, List.zipIdx_cons, List.map_cons, List.map_cons]
    exact .cons (.child h hn hn' hpre hm hrest) hnext
  | pre, pre', _, _ :: rest', hn, hn', hpre, .blank _ hrest => by
    have hnext := h.childrenFrom pre (pre' ++ [.text ""]) hn (by simp [hn']) hpre.snoc_blank hrest
    rw [List.length_append, List.length_singleton] at hnext
    rw [List.zipIdx_cons, List.map_cons]
    exact .blank rfl hnext

/-- The children of cursors at the same place stand at the same places. -/
theorem Padded.children {c c' : Cursor} (h : c.Padded c') : PaddedList c.children c'.children := by
  obtain ⟨n, path⟩ := c
  obtain ⟨n', path'⟩ := c'
  exact h.childrenFrom [] [] rfl rfl .nil h.node.children

end Cursor

section Rules

variable {c c' : Cursor} (o : Options)

theorem Cursor.Padded.cellPrefix_eq (h : c.Padded c') : cellPrefix c' = cellPrefix c := by
  rw [cellPrefix, cellPrefix, h.parentTag?_eq, h.isFirstContentChild_eq]

theorem Cursor.Padded.cellSuffix_eq (h : c.Padded c') : cellSuffix c' = cellSuffix c := by
  rw [cellSuffix, cellSuffix, h.parentTag?_eq, h.isLastContentChild_eq]

theorem Cursor.Padded.listItemMarker_eq (h : c.Padded c') :
    listItemMarker o c' = listItemMarker o c := by
  rw [listItemMarker, listItemMarker, h.parentTag?_eq,
    h.precedingSiblings.length_filter (fun ha => ha.isTag_eq "li") rfl]

theorem Cursor.Padded.markerWidth_eq (h : c.Padded c') : markerWidth o c' = markerWidth o c := by
  rw [markerWidth, markerWidth, h.listItemMarker_eq]

theorem Cursor.Padded.defersShortcode_eq (h : c.Padded c') :
    defersShortcode c' = defersShortcode c := by
  rw [defersShortcode, defersShortcode, h.tag_eq, h.hasAncestor_eq, h.hasAncestor_eq]

theorem Cursor.Padded.defersToContainer_eq (h : c.Padded c') :
    defersToContainer c' = defersToContainer c := by
  simp only [defersToContainer, h.tag_eq, h.hasAncestor_eq, h.hasDescendant_eq, h.innerText_eq,
    h.defersShortcode_eq]

theorem Cursor.Padded.resolveLayout_eq (h : c.Padded c') :
    resolveLayout o c' = resolveLayout o c := by
  have hlists : ((c'.ancestors.filter (·.node.isTag "li")).map (markerWidth o)) =
      ((c.ancestors.filter (·.node.isTag "li")).map (markerWidth o)) :=
    forall₂_map_eq (fun ha => ha.markerWidth_eq o)
      (forall₂_filter (fun ha => ha.node.isTag_eq "li") h.ancestors)
  simp only [resolveLayout, Cursor.isTag, h.tag_eq, h.hasAncestor_eq, h.hasDescendant_eq,
    h.innerText_eq, h.defersShortcode_eq, h.countAncestors_eq, h.markerWidth_eq, hlists]
  rfl

theorem Cursor.Padded.chunkerFor_eq (h : c.Padded c') : chunkerFor o c' = chunkerFor o c := by
  rw [chunkerFor, chunkerFor, h.isTag_eq]

theorem Cursor.Padded.trimBlock_eq (h : c.Padded c') (content : String) :
    trimBlock o c' content = trimBlock o c content := by
  rw [trimBlock, trimBlock, h.resolveLayout_eq]

theorem Cursor.Padded.textMarkdown_eq (h : c.Padded c') : textMarkdown o c' = textMarkdown o c := by
  rw [textMarkdown, textMarkdown, h.node.value_eq, h.node.isBlankText_eq, h.parentTag?_eq]

theorem Cursor.Padded.titleSuffix_eq (h : c.Padded c') : titleSuffix c' = titleSuffix c := by
  rw [titleSuffix, titleSuffix, h.node.attr?_eq]

theorem Cursor.Padded.linkFragment_eq (h : c.Padded c') (converted : String) :
    linkFragment o c' converted = linkFragment o c converted := by
  rw [linkFragment, linkFragment, h.node.attr?_eq, h.titleSuffix_eq]

theorem Cursor.Padded.imageFragment_eq (h : c.Padded c') :
    imageFragment o c' = imageFragment o c := by
  rw [imageFragment, imageFragment, h.node.attr?_eq, h.node.attr?_eq, h.titleSuffix_eq]

theorem Cursor.Padded.lineBreakFragment_eq (h : c.Padded c') :
    lineBreakFragment o c' = lineBreakFragment o c := by
  have hcell : c'.ancestors.any (fun a => a.isTag "td" || a.isTag "th") =
      c.ancestors.any (fun a => a.isTag "td" || a.isTag "th") :=
    forall₂_any_eq (fun ha => by rw [ha.isTag_eq, ha.isTag_eq]) h.ancestors
  rw [lineBreakFragment, lineBreakFragment, hcell,
    h.followingSiblings.toPrefix.trailingContent_eq]

theorem Cursor.Padded.delimitedFragment_eq (h : c.Padded c') {kind : List String}
    (hkind : ∀ t ∈ kind, isBlockTag t = false) (delim converted : String) :
    delimitedFragment kind delim c' converted = delimitedFragment kind delim c converted := by
  have hnested : c'.ancestors.any (fun a => kind.any a.isTag) =
      c.ancestors.any (fun a => kind.any a.isTag) :=
    forall₂_any_eq (fun ha => by rw [funext ha.isTag_eq]) h.ancestors
  have hnext := h.followingSiblings.head?_any_isTag_eq hkind
  rw [← Cursor.nextSibling?_eq, ← Cursor.nextSibling?_eq] at hnext
  rw [delimitedFragment, delimitedFragment, hnested]
  generalize c'.nextSibling? = x' at hnext ⊢
  generalize c.nextSibling? = x at hnext ⊢
  cases x <;> cases x' <;> simp only [Option.any_some, Option.any_none] at hnext
  · rfl
  · simp only [hnext]
    rfl
  · simp only [← hnext]
    rfl
  · simp only [hnext]

theorem Cursor.Padded.headingFragment_eq (h : c.Padded c') (converted : String) :
    headingFragment c' converted = headingFragment c converted := by
  rw [headingFragment, headingFragment, h.tag_eq]

theorem Node.Padded.nodeLanguage_eq {n n' : Node} (h : n.Padded n') :
    nodeLanguage n' = nodeLanguage n := by
  rw [nodeLanguage, nodeLanguage, h.attr?_eq]

theorem Cursor.Padded.codeLanguage_eq (h : c.Padded c') : codeLanguage o c' = codeLanguage o c := by
  have hchild : ((c'.node.elementChildren.find? (·.isTag "code")).bind nodeLanguage) =
      ((c.node.elementChildren.find? (·.isTag "code")).bind nodeLanguage) :=
    optionRel_congr (F := fun x => x.bind nodeLanguage)
      (forall₂_find? (fun ha => ha.isTag_eq "code")
        (h.node.children.toPrefix.filter Node.Padded.isElement_eq rfl))
      fun hx => by rw [Option.bind_some, Option.bind_some, hx.nodeLanguage_eq]
  have hparent : (c'.parent?.bind (nodeLanguage ·.node)) = (c.parent?.bind (nodeLanguage ·.node)) :=
    optionRel_congr (F := fun x => x.bind (nodeLanguage ·.node)) (forall₂_head? h.ancestors)
      fun hx => by rw [Option.bind_some, Option.bind_some, hx.node.nodeLanguage_eq]
  simp only [codeLanguage, h.node.nodeLanguage_eq, hchild, hparent]

theorem Cursor.Padded.codeBlockFragment_eq (h : c.Padded c') :
    codeBlockFragment o c' = codeBlockFragment o c := by
  have hli : Option.Rel Cursor.Padded (c.ancestor? "li") (c'.ancestor? "li") :=
    forall₂_find? (fun ha => ha.node.isTag_eq "li") h.ancestors
  rw [codeBlockFragment, codeBlockFragment, h.innerText_eq, h.codeLanguage_eq]
  generalize c'.ancestor? "li" = li' at hli ⊢
  generalize c.ancestor? "li" = li at hli ⊢
  cases hli with
  | none => rfl
  | some hx => simp only [hx.markerWidth_eq]

theorem Cursor.Padded.tablePrefix_eq (h : c.Padded c') : tablePrefix o c' = tablePrefix o c := by
  have hrow : Option.Rel Node.Padded (c.node.findDescendant? fun d : Node => d.isTag "tr")
      (c'.node.findDescendant? fun d : Node => d.isTag "tr") :=
    h.node.findDescendant? (fun ha => ha.isTag_eq "tr") rfl
  rw [tablePrefix, tablePrefix, h.hasDescendant_eq]
  generalize (c'.node.findDescendant? fun d : Node => d.isTag "tr") = row' at hrow ⊢
  generalize (c.node.findDescendant? fun d : Node => d.isTag "tr") = row at hrow ⊢
  cases hrow with
  | none => rfl
  | some hx => simp only [hx.children.toPrefix.length_filter (fun ha => ha.isTag_eq "td") rfl]

section FirstRow

variable {q : Node → Bool} (hq : ∀ {a a' : Node}, a.Padded a' → q a' = q a)
  (hqb : q (.text "") = false)
include hq hqb

theorem Node.Padded.firstPath?_child_iff {p p' m m' : Node} {pre pre' post post' : List Node}
    (hp : p.children = pre ++ m :: post) (hp' : p'.children = pre' ++ m' :: post')
    (hpre : Node.PaddedPrefix pre pre') (hm : m.Padded m') {L L' : List Nat}
    (hL : L = [] ↔ L' = []) (hF : m.firstPath? q = some L ↔ m'.firstPath? q = some L') :
    p.firstPath? q = some (pre.length :: L) ↔ p'.firstPath? q = some (pre'.length :: L') := by
  rw [Node.firstPath?_split hp, Node.firstPath?_split hp', hq hm,
    hpre.firstPathIn?_eq_none_iff hq hqb 0 0]
  cases q m with
  | true => simp [hL]
  | false => simp [hF]

theorem Cursor.Padded.firstPath?_ancestor_iff {c c' : Cursor} (h : c.Padded c') {k : Nat}
    {t t' : Cursor} (ht : c.ancestors[k]? = some t) (ht' : c'.ancestors[k]? = some t')
    {L L' : List Nat} (hL : L = [] ↔ L' = [])
    (hF : c.node.firstPath? q = some L ↔ c'.node.firstPath? q = some L') :
    t.node.firstPath? q = some (((c.path.take (k + 1)).map (·.index)).reverse ++ L) ↔
      t'.node.firstPath? q = some (((c'.path.take (k + 1)).map (·.index)).reverse ++ L') := by
  induction h generalizing k t t' L L' with
  | root _ =>
    change ([] : List Cursor)[k]? = some t at ht
    simp at ht
  | child _ hp hp' hpre hm _ ih =>
    have hchild := Node.Padded.firstPath?_child_iff hq hqb hp hp' hpre hm hL hF
    rw [ancestors_cons] at ht ht'
    cases k with
    | zero =>
      -- the ancestor is the parent, one position above the cursor
      simp only [List.getElem?_cons_zero, Option.some.injEq] at ht ht'
      subst ht ht'
      simpa using hchild
    | succ k =>
      -- higher up, the parent's own path continues with the cursor's position
      simp only [List.getElem?_cons_succ] at ht ht'
      have hup := ih ht ht' (by simp) hchild
      simpa [List.take_succ_cons, List.reverse_cons, List.append_assoc] using hup

end FirstRow

theorem isImplicitHeader_eq_elim (c : Cursor) :
    isImplicitHeader o c =
      (o.headerRow == .firstRow &&
        ((c.ancestors.zipIdx.find? fun x => x.1.isTag "table").elim false fun x =>
          x.1.node.firstPath? (·.isTag "tr") ==
              some ((c.path.take (x.2 + 1)).map (·.index)).reverse &&
            !x.1.hasDescendant "th")) := by
  rw [isImplicitHeader]
  congr 1
  split
  · next t k heq =>
    rw [show (List.find? (fun x => x.1.isTag "table") c.ancestors.zipIdx) = some (t, k) from heq]
    rfl
  · next heq =>
    rw [show (List.find? (fun x => x.1.isTag "table") c.ancestors.zipIdx) = none from heq]
    rfl

theorem Cursor.Padded.isImplicitHeader_eq (h : c.Padded c') :
    isImplicitHeader o c' = isImplicitHeader o c := by
  rw [isImplicitHeader_eq_elim, isImplicitHeader_eq_elim]
  rcases forall₂_find?_zipIdx (p := (·.isTag "table")) (fun ha => ha.isTag_eq "table")
    h.ancestors 0 with ⟨h1, h2⟩ | ⟨k, t, t', h1, h2, ht, ht', hr⟩
  · rw [h1, h2]
    rfl
  · rw [h1, h2]
    have hrow := h.firstPath?_ancestor_iff (q := (·.isTag "tr")) (fun ha => ha.isTag_eq "tr") rfl
      ht ht' (Iff.rfl : ([] : List Nat) = [] ↔ ([] : List Nat) = [])
      (iff_of_false (Node.firstPath?_ne_nil _) (Node.firstPath?_ne_nil _))
    simp only [List.append_nil] at hrow
    simp only [Option.elim_some, Nat.add_zero, hr.hasDescendant_eq]
    congr 2
    exact Bool.eq_iff_iff.2 (by simpa only [beq_iff_eq] using hrow.symm)

theorem Cursor.Padded.rowFragment_eq (h : c.Padded c') (converted : String) :
    rowFragment o c' converted = rowFragment o c converted := by
  have hth := h.node.children.toPrefix.any_eq (fun ha => ha.isTag_eq "th") rfl
  have hcells := h.node.children.toPrefix.length_filter (p := fun n => n.isTag "td" || n.isTag "th")
    (fun ha => by rw [ha.isTag_eq, ha.isTag_eq]) rfl
  simp only [rowFragment, hth, hcells, h.isImplicitHeader_eq]

end Rules

end HtmlMarkdown
