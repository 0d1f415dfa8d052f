import HtmlMarkdown.Convert.Inline
import HtmlMarkdown.Proofs.Layout
import HtmlMarkdown.Proofs.EncodedTargets

namespace HtmlMarkdown

theorem scanChunks_nil (r : Bool) : scanChunks r [] = [] := by
  rw [scanChunks]

theorem chunkLine_of_nextChunk_length {mode : ShortcodeMode} {c : Char} {rest : List Char}
    {k : ChunkKind} {n : {n : Nat // 0 < n}} (hc : c ≠ ' ') (hlf : '\n' ∉ c :: rest)
    (hk : k ≠ .shortcode) (h : nextChunk (mode != .disabled) c rest = (k, n))
    (hn : n.1 = (c :: rest).length) :
    chunkLine mode (String.ofList (c :: rest)) = .ok [⟨k, String.ofList (c :: rest)⟩] := by
  obtain ⟨n, hpos⟩ := n
  subst hn
  have hscan : scanChunks (mode != .disabled) (c :: rest) = [⟨k, String.ofList (c :: rest)⟩] := by
    rw [scanChunks_cons_of_nextChunk hc h, List.take_length, List.drop_length, scanChunks_nil]
  unfold chunkLine
  rw [String.toList_ofList, if_neg (by simpa using hlf), hscan]
  split
  · exact splitShortcodes_of_kind (by simpa using hk)
  · rfl

theorem nextChunk_of_linkLength? {r : Bool} {c : Char} {rest : List Char} {v : {n : Nat // 0 < n}}
    (h : linkLength? (c :: rest) = some v) : nextChunk r c rest = (.link, v) := by
  unfold nextChunk
  rw [h]

theorem nextChunk_of_codeLength? {r : Bool} {c : Char} {rest : List Char} {v : {n : Nat // 0 < n}}
    (hl : linkLength? (c :: rest) = none) (h : codeLength? (c :: rest) = some v) :
    nextChunk r c rest = (.code, v) := by
  unfold nextChunk
  rw [hl, h]

theorem linkLength?_eq_none {cs : List Char} (h : ¬[']', '('] <:+: cs) : linkLength? cs = none := by
  have hmap := linkLength?_map_val cs
  rw [List.findSome?_eq_none_iff.2 ?_] at hmap
  · exact Option.map_eq_none_iff.1 hmap
  · intro b _
    unfold linkEndAt
    split
    · rw [Option.map_eq_none_iff, ← Option.not_isSome_iff_eq_none, linkTail?_isSome_iff]
      rintro ⟨P, Q, hPQ, -⟩
      have hmid : [']', '('] <:+: P ++ ']' :: '(' :: Q := ⟨P, Q, by simp⟩
      exact h (hmid.trans (hPQ ▸ (List.drop_suffix (b + 1) cs).isInfix))
    · rfl

theorem longestRun_eq_zero {s : String} {c : Char} (h : c ∉ s.toList) : longestRun s c = 0 := by
  unfold longestRun
  generalize s.toList = l at h
  -- without the character the fold never leaves the state of no run at all
  induction l with
  | nil => rfl
  | cons d l ih =>
    have hd : d ≠ c := fun e => h (e ▸ List.mem_cons_self)
    rw [List.foldl_cons]
    simpa [hd] using ih fun hl => h (List.mem_cons_of_mem d hl)

theorem codeSpan_render {code : String} (hne : code ≠ "") (htick : '`' ∉ code.toList) :
    (codeSpan code).render.toList = '`' :: (code.toList ++ ['`']) := by
  have hhead : code.toList.head? ≠ some '`' := fun h => htick (List.mem_of_mem_head? h)
  have hlast : code.toList.getLast? ≠ some '`' := fun h => htick (List.mem_of_mem_getLast? h)
  have hempty : code.isEmpty = false := by simpa [String.isEmpty_iff] using hne
  simp [codeSpan, hempty, longestRun_eq_zero htick, hhead, hlast, Fragment.render]

theorem codeLength?_fenced {code : List Char} (htick : '`' ∉ code) :
    (codeLength? ('`' :: (code ++ ['`']))).map Subtype.val = some (code.length + 2) := by
  rw [codeLength?_map_val]
  -- the solid run starts with the opening backtick
  have hrun : solidLength ('`' :: (code ++ ['`'])) = solidLength (code ++ ['`']) + 1 := by
    simp [solidLength, isWhite]
  have hopen : findSeq? ['`']
      (('`' :: (code ++ ['`'])).take (solidLength ('`' :: (code ++ ['`'])))) = some 0 := by
    rw [hrun, List.take_succ_cons]
    simp [findSeq?, List.isPrefixOf]
  have hclose : findSeq? ['`'] (code ++ ['`']) = some code.length := by
    rw [findSeq?_append _ _ _ (by simp), findSeq?_eq_none_of_not_mem htick]
    simp [findSeq?, List.isPrefixOf]
  rw [hopen, Option.bind_some, List.drop_succ_cons, List.drop_zero, hclose, Option.map_some]
  have hend : ('`' :: (code ++ ['`'])).drop (0 + 1 + code.length + 1) = [] :=
    List.drop_eq_nil_of_le (by
      simp only [List.length_cons, List.length_append, List.length_nil]
      omega)
  rw [extendSolid, hend]
  simp only [solidLength, List.takeWhile_nil, List.length_nil, Option.some.injEq]
  omega

theorem chunkLine_fenced (mode : ShortcodeMode) {code : List Char} (hlf : '\n' ∉ code)
    (htick : '`' ∉ code) (hlink : ¬[']', '('] <:+: code) :
    chunkLine mode (String.ofList ('`' :: (code ++ ['`']))) =
      .ok [⟨.code, String.ofList ('`' :: (code ++ ['`']))⟩] := by
  -- `](` cannot end at the closing backtick
  have hnolink : ¬[']', '('] <:+: '`' :: (code ++ ['`']) := by
    intro h
    have hsplit : [']', '('] <:+: '`' :: code ∨ [']', '('] <:+: ['`'] :=
      infix_append_of_head (by simp) h
    rcases hsplit with h | h
    · rcases List.infix_cons_iff.1 h with h | h
      · exact absurd (List.cons_prefix_cons.1 h).1 (by decide)
      · exact hlink h
    · simpa using h.length_le
  have hcode := eq_of_map_val (v := ⟨code.length + 2, by omega⟩) (codeLength?_fenced htick)
  exact chunkLine_of_nextChunk_length (by decide) (by simp [hlf]) (by decide)
    (nextChunk_of_codeLength? (linkLength?_eq_none hnolink) hcode) (by simp)

section Agree

variable {α β : Type} {l : List α} {f : α → Option β} {v : β}

theorem findSome?_eq_some_of_forall (hall : ∀ x ∈ l, f x = none ∨ f x = some v)
    (hex : ∃ x ∈ l, f x = some v) : l.findSome? f = some v := by
  induction l with
  | nil => simp at hex
  | cons a l ih =>
    rw [List.findSome?_cons]
    rcases hall a List.mem_cons_self with ha | ha
    · rw [ha]
      obtain ⟨x, hx, hfx⟩ := hex
      rcases List.mem_cons.1 hx with rfl | hx
      · rw [ha] at hfx
        cases hfx
      · exact ih (fun y hy => hall y (List.mem_cons_of_mem a hy)) ⟨x, hx, hfx⟩
    · rw [ha]

end Agree

theorem linkTail?_link_close {N T : List Char} (hN : ¬[']', '('] <:+: N) (hT : ')' ∉ T) :
    linkTail? (N ++ ']' :: '(' :: (T ++ [')'])) = some (N.length + 2 + T.length + 1) := by
  have hi : findSeq? [']', '('] (N ++ ']' :: '(' :: (T ++ [')'])) = some N.length := by
    have hnone : findSeq? [']', '('] N = none := by
      rw [← Option.not_isSome_iff_eq_none, isSome_findSeq?_iff]
      exact hN
    rw [findSeq?_append _ _ _ (by simp), hnone]
    simp [findSeq?, List.isPrefixOf]
  have hj : findSeq? [')'] (T ++ [')']) = some T.length := by
    rw [findSeq?_append _ _ _ (by simp), findSeq?_eq_none_of_not_mem hT]
    simp [findSeq?, List.isPrefixOf]
  rw [linkTail?_eq_some]
  exact ⟨N.length, T.length, hi, by simpa using hj, rfl⟩

theorem linkTail?_closing {T : List Char} (hT : ')' ∉ T) :
    linkTail? (T ++ [')']) = none ∨ linkTail? (T ++ [')']) = some (T.length + 1) := by
  cases h : linkTail? (T ++ [')']) with
  | none => exact .inl rfl
  | some e =>
    right
    -- the parenthesis the tail stops at is the only one
    have hclose := linkTail?_getElem? h
    have hle : e ≤ T.length + 1 := by simpa using linkTail?_le_length h
    have hpos : 0 < e := by
      obtain ⟨i, j, -, -, rfl⟩ := linkTail?_eq_some.1 h
      omega
    have hlast : e - 1 = T.length := by
      by_contra hne
      rw [List.getElem?_append_left (by omega)] at hclose
      exact hT (List.mem_of_getElem? hclose)
    rw [show e = T.length + 1 by omega]

theorem linkTail?_of_suffix_closing {T ds : List Char} (hT : ')' ∉ T) (hds : ds <:+ T ++ [')']) :
    linkTail? ds = none ∨ linkTail? ds = some ds.length := by
  induction T with
  | nil =>
    rcases List.suffix_cons_iff.1 hds with rfl | hds
    · exact linkTail?_closing (T := []) (by simp)
    · rw [List.suffix_nil.1 hds]
      exact .inl rfl
  | cons t T ih =>
    rcases List.suffix_cons_iff.1 hds with rfl | hds
    · simpa using linkTail?_closing hT
    · exact ih (fun h => hT (List.mem_cons_of_mem t h)) hds

theorem linkTail?_of_suffix_link {N T ds : List Char} (hN : ¬[']', '('] <:+: N) (hT : ')' ∉ T)
    (hds : ds <:+ N ++ ']' :: '(' :: (T ++ [')'])) :
    linkTail? ds = none ∨ linkTail? ds = some ds.length := by
  induction N with
  | nil =>
    rw [List.nil_append] at hds
    rcases List.suffix_cons_iff.1 hds with rfl | hds
    · have h := linkTail?_link_close (N := []) (by simp) hT
      rw [List.nil_append] at h
      rw [h]
      simp only [List.length_cons, List.length_append, List.length_nil, Option.some.injEq]
      omega
    · exact linkTail?_of_suffix_closing (T := '(' :: T) (by simpa using hT) hds
  | cons n N ih =>
    rw [List.cons_append] at hds
    rcases List.suffix_cons_iff.1 hds with rfl | hds
    · have h := linkTail?_link_close hN hT
      rw [List.cons_append] at h
      rw [h]
      simp only [List.length_cons, List.length_append, List.length_nil, Option.some.injEq]
      omega
    · exact ih (fun h => hN (h.trans (List.suffix_cons n N).isInfix)) hds

theorem linkLength?_bracketed {P N T : List Char} (hP : ∀ c ∈ P, c ≠ '[' ∧ isWhite c = false)
    (hN : ¬[']', '('] <:+: N) (hT : ')' ∉ T) :
    (linkLength? (P ++ '[' :: (N ++ ']' :: '(' :: (T ++ [')'])))).map Subtype.val =
      some (P ++ '[' :: (N ++ ']' :: '(' :: (T ++ [')']))).length := by
  set R := N ++ ']' :: '(' :: (T ++ [')']) with hR
  set cs := P ++ '[' :: R with hcs
  have hend : extendSolid cs cs.length = cs.length := by
    simp [extendSolid, solidLength]
  rw [linkLength?_map_val]
  apply findSome?_eq_some_of_forall
  · -- a bracket of the solid run lies past `P`, so the reading after it ends at the end
    intro b hb
    have hblt := lt_length_of_mem_range_solid hb
    unfold linkEndAt
    split
    · next hbr =>
      have hge : P.length ≤ b := by
        by_contra hlt
        rw [hcs, List.getElem?_append_left (by omega)] at hbr
        exact (hP '[' (List.mem_of_getElem? hbr)).1 rfl
      have hsuf : cs.drop (b + 1) <:+ R := by
        have hdrop : cs.drop (b + 1) = R.drop (b - P.length) := by
          rw [hcs, show b + 1 = (P.length + 1) + (b - P.length) by omega, ← List.drop_drop]
          simp
        rw [hdrop]
        exact List.drop_suffix _ _
      rcases linkTail?_of_suffix_link hN hT hsuf with h | h
      · rw [h]
        exact .inl rfl
      · rw [h, Option.map_some, List.length_drop, show b + 1 + (cs.length - (b + 1)) = cs.length
          by omega, hend]
        exact .inr rfl
    · exact .inl rfl
  · -- the bracket after `P` lies in the solid run
    refine ⟨P.length, ?_, ?_⟩
    · have hrun : solidLength cs = P.length + solidLength ('[' :: R) := by
        simp only [solidLength, hcs]
        rw [List.takeWhile_append_of_pos (by simpa using fun c hc => (hP c hc).2)]
        simp
      rw [List.mem_reverse, List.mem_range, hrun]
      simp [solidLength, isWhite]
    · have hopen : cs[P.length]? = some '[' := by simp [hcs]
      have hrest : cs.drop (P.length + 1) = R := by simp [hcs]
      rw [linkEndAt, if_pos hopen, hrest, hR, linkTail?_link_close hN hT, Option.map_some]
      congr 1
      rw [← hend]
      congr 1
      simp only [hcs, hR, List.length_append, List.length_cons, List.length_nil]
      omega

theorem chunkLine_bracketed (mode : ShortcodeMode) {P N T : List Char}
    (hP : ∀ c ∈ P, c ≠ '[' ∧ isWhite c = false) (hN : ¬[']', '('] <:+: N) (hT : ')' ∉ T)
    (hlf : '\n' ∉ P ++ '[' :: (N ++ ']' :: '(' :: (T ++ [')']))) :
    chunkLine mode (String.ofList (P ++ '[' :: (N ++ ']' :: '(' :: (T ++ [')'])))) =
      .ok [⟨.link, String.ofList (P ++ '[' :: (N ++ ']' :: '(' :: (T ++ [')'])))⟩] := by
  have hlink := linkLength?_bracketed hP hN hT
  -- the line starts with a character of `P` or with the bracket, neither a space
  have hhead : ∃ c rest, P ++ '[' :: (N ++ ']' :: '(' :: (T ++ [')'])) = c :: rest ∧ c ≠ ' ' := by
    cases P with
    | nil => exact ⟨'[', _, rfl, by decide⟩
    | cons p P =>
      refine ⟨p, _, rfl, fun h => ?_⟩
      have hsolid := (hP p List.mem_cons_self).2
      rw [h] at hsolid
      exact absurd hsolid (by decide)
  obtain ⟨c, rest, hcs, hc⟩ := hhead
  rw [hcs] at hlink hlf ⊢
  obtain ⟨v, hv, hval⟩ := Option.map_eq_some_iff.1 hlink
  exact chunkLine_of_nextChunk_length hc hlf (by decide) (nextChunk_of_linkLength? hv) hval

theorem mem_replaceSeq {p : Char} {ps rep cs : List Char} {x : Char}
    (h : x ∈ replaceSeq p ps rep cs) : x ∈ cs ∨ x ∈ rep := by
  fun_induction replaceSeq p ps rep cs with
  | case1 => simp at h
  | case2 c rest _ ih =>
    rcases List.mem_append.1 h with h | h
    · exact .inr h
    · rcases ih h with h | h
      · exact .inl (List.mem_cons_of_mem c (List.mem_of_mem_drop h))
      · exact .inr h
  | case3 c rest _ ih =>
    rcases List.mem_cons.1 h with rfl | h
    · exact .inl List.mem_cons_self
    · exact (ih h).imp_left (List.mem_cons_of_mem c)

theorem mem_replaceText {pat rep s : String} {x : Char} (h : x ∈ (replaceText pat rep s).toList) :
    x ∈ s.toList ∨ x ∈ rep.toList := by
  unfold replaceText at h
  split at h
  · exact .inl h
  · rw [String.toList_ofList] at h
    exact mem_replaceSeq h

theorem not_mem_titleSuffix {c : Cursor}
    (h : ')' ∉ (cleanAttribute (c.node.attr? "title")).toList) :
    ')' ∉ (titleSuffix c).toList := by
  unfold titleSuffix
  dsimp only
  split
  · simp
  · intro hx
    simp only [String.toList_append, List.mem_append] at hx
    rcases hx with (hx | hx) | hx
    · simp at hx
    · rcases mem_replaceText hx with hx | hx
      · exact h hx
      · simp at hx
    · simp at hx

theorem not_mem_encodeUrl (url : String) : ')' ∉ (encodeUrl url).toList :=
  fun h => (mem_encodeUrl h).2.1 rfl

theorem infix_of_infix_escapeLinkText {s : String}
    (h : [']', '('] <:+: (escapeLinkText s).toList) : [']', '('] <:+: s.toList := by
  simp only [escapeLinkText, String.toList_join, List.flatMap_map] at h
  generalize s.toList = l at h
  induction l with
  | nil => simp at h
  | cons c l ih =>
    rw [List.flatMap_cons] at h
    -- the pattern lies in the escape of `c`, across it, or further on
    have hhead : ∀ d ∈ (l.flatMap fun c =>
        (if (c == '[' || c == ']') = true then "\\" ++ c.toString else c.toString).toList).head?,
        d = '(' → l.head? = some '(' := by
      intro d hd hdp
      cases l with
      | nil => simp at hd
      | cons e l =>
        rw [List.flatMap_cons] at hd
        by_cases he : e = '[' ∨ e = ']'
        · rcases he with rfl | rfl <;> simp_all
        · simp_all
    by_cases hc : c = '[' ∨ c = ']'
    · have he : (if (c == '[' || c == ']') = true then "\\" ++ c.toString
          else c.toString).toList = ['\\', c] := by
        rcases hc with rfl | rfl <;> rfl
      rw [he, List.cons_append, List.cons_append, List.nil_append] at h
      rcases List.infix_cons_iff.1 h with h | h
      · exact absurd (List.cons_prefix_cons.1 h).1 (by decide)
      rcases List.infix_cons_iff.1 h with h | h
      · -- a closing bracket whose next character is written as an opening parenthesis
        obtain ⟨rfl, t, ht⟩ := List.cons_prefix_cons.1 h
        have hl := hhead '(' (by rw [← ht]; rfl) rfl
        cases l with
        | nil => simp at hl
        | cons e l =>
          obtain rfl : e = '(' := by simpa using hl
          exact ⟨[], l, rfl⟩
      · exact (ih h).trans (List.suffix_cons c l).isInfix
    · have he : (if (c == '[' || c == ']') = true then "\\" ++ c.toString
          else c.toString).toList = [c] := by
        simp_all
      rw [he, List.singleton_append] at h
      rcases List.infix_cons_iff.1 h with h | h
      · obtain ⟨rfl, -⟩ := List.cons_prefix_cons.1 h
        exact absurd (.inr rfl) hc
      · exact (ih h).trans (List.suffix_cons c l).isInfix

theorem linkFragment_render {o : Options} {c : Cursor} {converted : String}
    (h : (linkFragment o c converted).pre = "[") :
    (linkFragment o c converted).render.toList =
      '[' :: ((trimWhite converted).toList ++ ']' :: '(' ::
        (((encodeUrl (cleanAttribute (c.node.attr? "href"))).toList ++ (titleSuffix c).toList) ++
          [')'])) := by
  unfold linkFragment at h ⊢
  dsimp only at h ⊢
  split_ifs at h ⊢ <;> simp_all [Fragment.ofContent, Fragment.render]

theorem imageFragment_render {o : Options} {c : Cursor} (h : (imageFragment o c).content ≠ "") :
    (imageFragment o c).render.toList =
      '!' :: '[' :: ((escapeLinkText ((c.node.attr? "alt").getD "")).toList ++ ']' :: '(' ::
        (((cleanAttribute (c.node.attr? "src")).toList ++ (titleSuffix c).toList) ++ [')'])) := by
  unfold imageFragment at h ⊢
  dsimp only at h ⊢
  split_ifs at h ⊢ <;> simp_all [Fragment.ofContent, Fragment.render]

/-- A code span, a link or an image on a line of its own is one chunk, in every shortcode mode. -/
theorem inline_spans_single_chunk (mode : ShortcodeMode) :
    (∀ code : String, code ≠ "" → '`' ∉ code.toList → ¬[']', '('] <:+: code.toList →
      '\n' ∉ (codeSpan code).render.toList →
      chunkLine mode (codeSpan code).render = .ok [⟨.code, (codeSpan code).render⟩]) ∧
    (∀ (o : Options) (c : Cursor) (converted : String), (linkFragment o c converted).pre = "[" →
      ¬[']', '('] <:+: (trimWhite converted).toList →
      ')' ∉ (cleanAttribute (c.node.attr? "title")).toList →
      '\n' ∉ (linkFragment o c converted).render.toList →
      chunkLine mode (linkFragment o c converted).render =
        .ok [⟨.link, (linkFragment o c converted).render⟩]) ∧
    (∀ (o : Options) (c : Cursor), (imageFragment o c).content ≠ "" →
      ¬[']', '('] <:+: ((c.node.attr? "alt").getD "").toList →
      ')' ∉ (cleanAttribute (c.node.attr? "src")).toList →
      ')' ∉ (cleanAttribute (c.node.attr? "title")).toList →
      '\n' ∉ (imageFragment o c).render.toList →
      chunkLine mode (imageFragment o c).render = .ok [⟨.link, (imageFragment o c).render⟩]) := by
  refine ⟨fun code hne htick hlink hlf => ?code, fun o c converted hpre hname htitle hlf => ?link,
    fun o c hne halt hsrc htitle hlf => ?image⟩
  case code =>
    have hr := codeSpan_render hne htick
    rw [hr] at hlf
    rw [← String.ofList_toList (s := (codeSpan code).render), hr]
    exact chunkLine_fenced mode (fun h => hlf (by simp [h])) htick hlink
  case link =>
    have hr := linkFragment_render hpre
    rw [hr] at hlf
    rw [← String.ofList_toList (s := (linkFragment o c converted).render), hr]
    -- the target is percent-encoded, so only the title could hold a parenthesis
    have hT : ')' ∉ (encodeUrl (cleanAttribute (c.node.attr? "href"))).toList ++
        (titleSuffix c).toList := by
      rw [List.mem_append, not_or]
      exact ⟨not_mem_encodeUrl _, not_mem_titleSuffix htitle⟩
    exact chunkLine_bracketed (P := []) mode (by simp) hname hT hlf
  case image =>
    have hr := imageFragment_render hne
    rw [hr] at hlf
    rw [← String.ofList_toList (s := (imageFragment o c).render), hr]
    have hT : ')' ∉ (cleanAttribute (c.node.attr? "src")).toList ++ (titleSuffix c).toList := by
      rw [List.mem_append, not_or]
      exact ⟨hsrc, not_mem_titleSuffix htitle⟩
    exact chunkLine_bracketed (P := ['!']) mode (by simp [isWhite])
      (fun h => halt (infix_of_infix_escapeLinkText h)) hT hlf

theorem inline_spans_single_chunk_sample :
    chunkLine .split (codeSpan "a b").render = .ok [⟨.code, (codeSpan "a b").render⟩] ∧
    chunkLine .split (linkFragment {} (Cursor.root (Node.element "a"
        [("href", "http://e.org/a b"), ("title", "t \"q\"")] [])) "x y").render =
      .ok [⟨.link, (linkFragment {} (Cursor.root (Node.element "a"
        [("href", "http://e.org/a b"), ("title", "t \"q\"")] [])) "x y").render⟩] ∧
    chunkLine .split (imageFragment {} (Cursor.root (Node.element "img"
        [("src", "p q.png"), ("alt", "a [b]"), ("title", "t")] []))).render =
      .ok [⟨.link, (imageFragment {} (Cursor.root (Node.element "img"
        [("src", "p q.png"), ("alt", "a [b]"), ("title", "t")] []))).render⟩] :=
  ⟨(inline_spans_single_chunk .split).1 "a b" (by decide) (by decide) (by decide)
      (by decide +kernel),
    (inline_spans_single_chunk .split).2.1 _ _ _ (by decide +kernel) (by decide +kernel)
      (by decide +kernel) (by decide +kernel),
    (inline_spans_single_chunk .split).2.2 _ _ (by decide +kernel) (by decide +kernel)
      (by decide +kernel) (by decide +kernel) (by decide +kernel)⟩

theorem inline_spans_split_early :
    ((codeSpan "a ` b").render = "``a ` b``" ∧
      chunkLine .disabled "``a ` b``" = .ok [⟨.code, "``a"⟩, ⟨.code, "` b``"⟩]) ∧
    ((codeSpan "[a](b) c").render = "`[a](b) c`" ∧
      chunkLine .disabled "`[a](b) c`" = .ok [⟨.link, "`[a](b)"⟩, ⟨.word, "c`"⟩]) ∧
    ((linkFragment {} (Cursor.root (Node.element "a" [("href", "u"), ("title", "a) b")] []))
        "x").render = "[x](u \"a) b\")" ∧
      chunkLine .disabled "[x](u \"a) b\")" = .ok [⟨.link, "[x](u \"a)"⟩, ⟨.word, "b\")"⟩]) ∧
    ((linkFragment {} (Cursor.root (Node.element "a" [("href", "u")] []))
        "a](b) c").render = "[a](b) c](u)" ∧
      chunkLine .disabled "[a](b) c](u)" = .ok [⟨.link, "[a](b)"⟩, ⟨.word, "c](u)"⟩]) ∧
    ((imageFragment {} (Cursor.root (Node.element "img" [("src", "s"), ("alt", "a](b) c")]
        []))).render = "![a\\](b) c](s)" ∧
      chunkLine .disabled "![a\\](b) c](s)" = .ok [⟨.link, "![a\\](b)"⟩, ⟨.word, "c](s)"⟩]) ∧
    ((imageFragment {} (Cursor.root (Node.element "img" [("src", "b) c"), ("alt", "a")]
        []))).render = "![a](b) c)" ∧
      chunkLine .disabled "![a](b) c)" = .ok [⟨.link, "![a](b)"⟩, ⟨.word, "c)"⟩]) := by
  decide +kernel

end HtmlMarkdown
