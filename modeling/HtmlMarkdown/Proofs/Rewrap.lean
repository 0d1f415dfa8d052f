import HtmlMarkdown.Proofs.Layout

namespace HtmlMarkdown

section Split

variable {α : Type}

theorem infix_intercalate_of_mem (sep : List α) {xs : List (List α)} {x : List α} (h : x ∈ xs) :
    x <:+: sep.intercalate xs := by
  induction xs with
  | nil => simp at h
  | cons y ys ih =>
    cases ys with
    | nil =>
      rw [List.mem_singleton.1 h, List.intercalate_singleton]
    | cons z zs =>
      rw [List.intercalate_cons_cons]
      rcases List.mem_cons.1 h with rfl | h
      · exact (List.prefix_append _ _).isInfix.trans (List.prefix_append _ _).isInfix
      · exact (ih h).trans (List.suffix_append _ _).isInfix

theorem mem_splitOn [BEq α] [LawfulBEq α] {a : α} {l x : List α} (h : x ∈ l.splitOn a) : a ∉ x ∧ x <:+: l := by
  refine ⟨?_, ?_⟩
  · induction l generalizing x with
    | nil => simp_all [List.splitOn_nil]
    | cons y ys ih =>
      rw [List.splitOn_cons_eq_if_modifyHead] at h
      split at h
      · next hy =>
        rcases List.mem_cons.1 h with rfl | h
        · simp
        · exact ih h
      · next hy =>
        obtain ⟨z, zs, hz⟩ := List.exists_cons_of_ne_nil (List.splitOn_ne_nil a ys)
        rw [hz, List.modifyHead_cons] at h
        rcases List.mem_cons.1 h with rfl | h
        · simp only [List.mem_cons, not_or]
          exact ⟨fun e => hy (by simp [e]), ih (by rw [hz]; exact List.mem_cons_self)⟩
        · exact ih (by rw [hz]; exact List.mem_cons_of_mem z h)
  · conv => rhs; rw [← @List.intercalate_splitOn _ l _ _ a]
    exact infix_intercalate_of_mem [a] h

theorem splitOn_intercalate_flatMap [BEq α] [LawfulBEq α] (a : α) {xs : List (List α)} (h : xs ≠ []) :
    ([a].intercalate xs).splitOn a = xs.flatMap (·.splitOn a) := by
  induction xs with
  | nil => exact absurd rfl h
  | cons x xs ih =>
    cases xs with
    | nil => simp
    | cons y ys =>
      rw [List.intercalate_cons_cons, List.append_assoc, List.singleton_append,
        List.splitOn_append_cons_self, ih (List.cons_ne_nil y ys)]
      simp

end Split

section MapM

variable {α β ε : Type} {f : α → Except ε β}

theorem forall₂_of_mapM_eq_ok {xs : List α} {ys : List β} (h : xs.mapM f = .ok ys) :
    List.Forall₂ (fun x y => f x = .ok y) xs ys := by
  induction xs generalizing ys with
  | nil =>
    cases h
    exact .nil
  | cons x xs ih =>
    rw [List.mapM_cons] at h
    cases hx : f x with
    | error e => simp [hx] at h; cases h
    | ok y =>
      cases hxs : xs.mapM f with
      | error e => simp [hx, hxs] at h; cases h
      | ok ys' =>
        simp only [hx, hxs] at h
        cases h
        exact .cons hx (ih hxs)

theorem mapM_eq_ok_map {xs : List α} {g : α → β} (h : ∀ x ∈ xs, f x = .ok (g x)) :
    xs.mapM f = .ok (xs.map g) := by
  induction xs with
  | nil => rfl
  | cons x xs ih =>
    rw [List.mapM_cons, h x List.mem_cons_self, ih fun y hy => h y (List.mem_cons_of_mem x hy)]
    rfl

theorem eq_nil_of_forall₂_nil {R : α → β → Prop} {xs : List α} (h : List.Forall₂ R xs []) :
    xs = [] := by
  cases h
  rfl

theorem exists_of_forall₂_mem {R : α → β → Prop} {xs : List α} {ys : List β}
    (h : List.Forall₂ R xs ys) {y : β} (hy : y ∈ ys) : ∃ x ∈ xs, R x y := by
  induction h with
  | nil => simp at hy
  | cons hxy _ ih =>
    rcases List.mem_cons.1 hy with rfl | hy
    · exact ⟨_, List.mem_cons_self, hxy⟩
    · obtain ⟨x, hx, hr⟩ := ih hy
      exact ⟨x, List.mem_cons_of_mem _ hx, hr⟩

end MapM

theorem dropCarriageReturn_of_not_mem {cs : List Char} (h : '\r' ∉ cs) :
    dropCarriageReturn (String.ofList cs) = String.ofList cs := by
  have hlast : cs.getLast? ≠ some '\r' := fun e => h (List.mem_of_getLast? e)
  simp [dropCarriageReturn, hlast]

theorem not_mem_dropCarriageReturn {cs : List Char} (hdrop : '\r' ∉ cs.dropLast) :
    '\r' ∉ (dropCarriageReturn (String.ofList cs)).toList := by
  unfold dropCarriageReturn
  rw [String.toList_ofList]
  split
  · rw [String.toList_ofList]
    exact hdrop
  · next hlast =>
    rw [String.toList_ofList]
    intro hm
    -- a carriage return that is not before the end is the last character
    have hne : cs ≠ [] := List.ne_nil_of_mem hm
    rw [← List.dropLast_append_getLast hne] at hm
    rcases List.mem_append.1 hm with hm | hm
    · exact hdrop hm
    · apply hlast
      rw [List.getLast?_eq_some_getLast hne, ← List.mem_singleton.1 hm]

theorem dropCarriageReturn_prefix_self (cs : List Char) :
    (dropCarriageReturn (String.ofList cs)).toList <+: cs := by
  unfold dropCarriageReturn
  split
  · rw [String.toList_ofList, String.toList_ofList]
    exact List.dropLast_prefix cs
  · rw [String.toList_ofList]

theorem joinChunks_getLast? {g : List Chunk} (hne : g ≠ []) (hsolid : ∀ d ∈ g, d.Solid) :
    (joinChunks g).getLast? = (g.getLast hne).text.toList.getLast? := by
  have hlast : (g.getLast hne).Solid := hsolid _ (List.getLast_mem hne)
  obtain ⟨e, u, he⟩ := List.exists_cons_of_ne_nil hlast
  conv => lhs; rw [← List.dropLast_append_getLast hne]
  by_cases hd : g.dropLast = []
  · rw [hd, List.nil_append, joinChunks_singleton]
  · rw [joinChunks_append_singleton hd, he, List.getLast?_append]
    simp only [List.getLast?_cons_cons]
    rw [List.getLast?_eq_some_getLast (List.cons_ne_nil e u), Option.some_or]

section Stable

variable {mode : ShortcodeMode} {width : Nat}

theorem wrapLine_group {I C Tr : List Char} {g : List Chunk} (hplain : PlainFor mode C)
    (hI : ∀ c ∈ I, c = ' ') (hTr : ∀ c ∈ Tr, c = ' ') (hlf : '\n' ∉ C)
    (hg : g <:+: scanChunks (mode != .disabled) C) (hne : g ≠ [])
    (hfit : FitsRoom (max 1 (width - I.length)) g) :
    wrapLine mode width (String.ofList (I ++ joinChunks g ++ Tr)) =
      .ok (String.ofList (I ++ joinChunks g ++ Tr)) := by
  have hmem : ∀ d ∈ g, d ∈ scanChunks (mode != .disabled) C := fun d hd => hg.subset hd
  have hsolid : ∀ d ∈ g, d.Solid := by
    intro d hd
    obtain ⟨-, ⟨e, u, he, -⟩, -⟩ := mem_scanChunks (hmem d hd)
    simp [Chunk.Solid, he]
  have hlf' : '\n' ∉ joinChunks g := by
    intro h
    rcases mem_joinChunks h with h | ⟨d, hd, h⟩
    · cases h
    · exact hlf ((mem_scanChunks (hmem d hd)).1.subset h)
  -- the group is the content of the line: it neither starts nor ends with a space
  have hp : LineParts I (joinChunks g) Tr := by
    refine ⟨hI, hTr, ?_, ?_⟩
    · obtain ⟨ch, g', rfl⟩ := List.exists_cons_of_ne_nil hne
      obtain ⟨-, ⟨c, t, he, hc⟩, -⟩ := mem_scanChunks (hmem ch List.mem_cons_self)
      exact ⟨c, t ++ g'.flatMap fun d => ' ' :: d.text.toList, by simp [joinChunks, he], hc⟩
    · rw [joinChunks_getLast? hne hsolid]
      exact (mem_scanChunks (hmem _ (List.getLast_mem hne))).2.2
  by_cases hfits : (I ++ joinChunks g ++ Tr).length ≤ width
  · have hall : '\n' ∉ I ++ joinChunks g ++ Tr := by
      intro h
      rcases List.mem_append.1 h with h | h
      · rcases List.mem_append.1 h with h | h
        · exact absurd (hI _ h) (by decide)
        · exact hlf' h
      · exact absurd (hTr _ h) (by decide)
    exact wrapLine_of_fits mode hall hfits
  · rw [wrapLine_eq_fill (hplain.joinChunks hg) hp hlf' (Nat.lt_of_not_le hfits),
      scanChunks_joinChunks hg,
      fillLines_of_fits hsolid hfit]
    simp

theorem wrapLine_lines_stable {l : List Char} (hplain : PlainFor mode l) (hlf : '\n' ∉ l)
    {o : String} (h : wrapLine mode width (String.ofList l) = .ok o) :
    ∀ x ∈ o.toList.splitOn '\n',
      wrapLine mode width (String.ofList x) = .ok (String.ofList x) ∧ ∀ c ∈ x, c ∈ l ∨ c = ' ' := by
  by_cases hfit : l.length ≤ width
  · -- a line that fits is written as it is
    rw [wrapLine_of_fits mode hlf hfit, Except.ok.injEq] at h
    subst h
    intro x hx
    rw [String.toList_ofList, List.splitOn_eq_singleton hlf, List.mem_singleton] at hx
    subst hx
    exact ⟨wrapLine_of_fits mode hlf hfit, fun c hc => .inl hc⟩
  by_cases hblank : ∀ c ∈ l, c = ' '
  · rw [wrapLine_of_blank mode width hblank, Except.ok.injEq] at h
    subst h
    intro x hx
    rw [String.toList_ofList, List.splitOn_eq_singleton hlf, List.mem_singleton] at hx
    subst hx
    exact ⟨wrapLine_of_blank mode width hblank, fun c hc => .inl hc⟩
  -- a long line is written as its groups of chunks
  have hsolidChar : ∃ c ∈ l, c ≠ ' ' := by
    by_contra hno
    exact hblank fun c hc => by_contra fun hne => hno ⟨c, hc, hne⟩
  obtain ⟨I, C, Tr, rfl, hp⟩ := exists_lineParts hsolidChar
  have hlfC : '\n' ∉ C := fun hm => hlf (List.mem_append_left _ (List.mem_append_right _ hm))
  have hplainC : PlainFor mode C := hplain.mono (List.infix_append _ _ _)
  obtain ⟨gs, hflat, hgs, hw⟩ := wrapLine_eq_groups hplainC hp hlfC (Nat.lt_of_not_le hfit)
  rw [hw, Except.ok.injEq] at h
  subst h
  have hlines : ∀ x ∈ mapLast (· ++ Tr) (gs.map fun g => I ++ joinChunks g),
      ∃ g ∈ gs, ∃ Tr' ⊆ Tr, x = I ++ joinChunks g ++ Tr' := by
    intro x hx
    obtain ⟨y, hy, hxy⟩ := mem_mapLast hx
    obtain ⟨g, hg, rfl⟩ := List.mem_map.1 hy
    rcases hxy with rfl | rfl
    · exact ⟨g, hg, [], List.nil_subset _, by simp⟩
    · exact ⟨g, hg, Tr, List.Subset.refl _, rfl⟩
  have hcharOf : ∀ g ∈ gs, ∀ c ∈ joinChunks g, c ∈ C ∨ c = ' ' := by
    intro g hg c hc
    rcases mem_joinChunks hc with h | ⟨d, hd, h⟩
    · exact .inr h
    have hd' : d ∈ scanChunks (mode != .disabled) C := hflat ▸ List.mem_flatten_of_mem hg hd
    exact .inl ((mem_scanChunks hd').1.subset h)
  intro x hx
  rw [String.toList_ofList, splitOn_wrapped_groups hp hlfC hflat] at hx
  obtain ⟨g, hg, Tr', hTr', rfl⟩ := hlines x hx
  refine ⟨wrapLine_group hplainC hp.indent (fun c hc => hp.trailing c (hTr' hc)) hlfC
    (hflat ▸ List.infix_of_mem_flatten hg) (hgs g hg).1 (hgs g hg).2, ?_⟩
  intro c hc
  rcases List.mem_append.1 hc with hc | hc
  · rcases List.mem_append.1 hc with hc | hc
    · exact .inl (by simp [hc])
    · rcases hcharOf g hg c hc with hc | hc
      · exact .inl (by simp [hc])
      · exact .inr hc
  · exact .inl (by simp [hTr' hc])

end Stable

/-- A wrapped text is kept by wrapping it again. -/
theorem wrapText_idempotent {mode : ShortcodeMode} (width : Nat) {t o : String}
    (hplain : mode ≠ .split ∨ ¬['{', '{', '<'] <:+: t.toList)
    (hcr : ∀ l ∈ t.toList.splitOn '\n', '\r' ∉ l.dropLast)
    (h : wrapText mode width t = .ok o) : wrapText mode width o = .ok o := by
  unfold wrapText at h
  split at h
  · cases h
    rfl
  obtain ⟨rs, hrs, rfl⟩ : ∃ rs, (t.toList.splitOn '\n').mapM (fun l =>
      wrapLine mode width (dropCarriageReturn (String.ofList l))) = .ok rs ∧
      o = "\n".intercalate rs := by
    cases hm : (t.toList.splitOn '\n').mapM (fun l =>
        wrapLine mode width (dropCarriageReturn (String.ofList l))) with
    | error e => simp [hm] at h
    | ok rs =>
      simp only [hm] at h
      exact ⟨rs, rfl, (Except.ok.inj h).symm⟩
  have hF := forall₂_of_mapM_eq_ok hrs
  have hrs0 : rs.map String.toList ≠ [] := by
    intro h0
    rw [List.map_eq_nil_iff] at h0
    subst h0
    exact List.splitOn_ne_nil _ _ (eq_nil_of_forall₂_nil hF)
  -- every line of the wrapped text is kept, after its carriage return is looked for
  have hstable : ∀ x ∈ ("\n".intercalate rs).toList.splitOn '\n',
      wrapLine mode width (dropCarriageReturn (String.ofList x)) = .ok (String.ofList x) := by
    intro x hx
    rw [String.toList_intercalate, show "\n".toList = ['\n'] from rfl,
      splitOn_intercalate_flatMap '\n' hrs0] at hx
    obtain ⟨r, hr, hx⟩ := List.mem_flatMap.1 hx
    obtain ⟨r0, hr0, rfl⟩ := List.mem_map.1 hr
    obtain ⟨l, hl, hlr⟩ := exists_of_forall₂_mem hF hr0
    have hpre := dropCarriageReturn_prefix_self l
    have hlf : '\n' ∉ (dropCarriageReturn (String.ofList l)).toList :=
      fun hm => (mem_splitOn hl).1 (hpre.subset hm)
    have hplainL : PlainFor mode (dropCarriageReturn (String.ofList l)).toList :=
      PlainFor.mono hplain (hpre.isInfix.trans (mem_splitOn hl).2)
    have hcr' : '\r' ∉ (dropCarriageReturn (String.ofList l)).toList :=
      not_mem_dropCarriageReturn (hcr l hl)
    rw [← String.ofList_toList (s := dropCarriageReturn _)] at hlr
    obtain ⟨hw, hchars⟩ := wrapLine_lines_stable hplainL hlf hlr x hx
    have hxcr : '\r' ∉ x := fun hm => (hchars _ hm).elim hcr' (by decide)
    rw [dropCarriageReturn_of_not_mem hxcr]
    exact hw
  -- so the lines are wrapped into themselves, and joined back into the text
  unfold wrapText
  split
  · next hempty =>
    rw [String.isEmpty_iff] at hempty
    rw [hempty]
  · rw [mapM_eq_ok_map hstable]
    show Except.ok _ = Except.ok _
    congr 1
    rw [← String.toList_inj, String.toList_intercalate, List.map_map]
    simp [Function.comp_def]

theorem wrapText_idempotent_crlf :
    wrapText .atomic 5 "aaaa bb cc\r\ndd" = .ok "aaaa\nbb cc\ndd" ∧
      wrapText .atomic 5 "aaaa\nbb cc\ndd" = .ok "aaaa\nbb cc\ndd" :=
  have h : wrapText .atomic 5 "aaaa bb cc\r\ndd" = .ok "aaaa\nbb cc\ndd" := by decide +kernel
  ⟨h, wrapText_idempotent 5 (.inl (by decide)) (by decide) h⟩

theorem wrapText_rewrap_changes :
    (wrapText .disabled 80 "a\r\r" = .ok "a\r" ∧ wrapText .disabled 80 "a\r" = .ok "a") ∧
      (wrapText .split 3 "\x7b\x7b< a >\x7d\x7d" = .ok "\x7b\x7b<\na >\x7d\x7d" ∧
        wrapText .split 3 "\x7b\x7b<\na >\x7d\x7d" = .ok "\x7b\x7b<\na\n>\x7d\x7d") := by
  decide +kernel

end HtmlMarkdown
