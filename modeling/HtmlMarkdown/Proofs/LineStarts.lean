import HtmlMarkdown.Proofs.FirstFit
import HtmlMarkdown.Proofs.FirstFailure
import HtmlMarkdown.Proofs.EscapedAsterisks

namespace HtmlMarkdown

def isBlockMarker (c : Char) : Bool := c == '-' || c == '+' || c == '#'

/-- Whether a line opens a Markdown block: a quote, or a list item or heading marker and a space. -/
def opensBlock : List Char → Bool
  | [] => false
  | c :: rest => c == '>' || (isBlockMarker c && rest.head?.all (· == ' '))

def spacedOpener : List Char → Bool
  | [] => false
  | c :: rest => (c == ' ' && opensBlock rest) || spacedOpener rest

theorem head_of_opensBlock {x : Char} {rest : List Char} (h : opensBlock (x :: rest) = true) :
    x = '>' ∨ (x = '-' ∨ x = '+' ∨ x = '#') ∧ ∀ d ∈ rest.head?, d = ' ' := by
  simp only [opensBlock, isBlockMarker, Bool.or_eq_true, beq_iff_eq, Bool.and_eq_true] at h
  rcases h with h | ⟨hm, hsp⟩
  · exact .inl h
  · refine .inr ⟨or_assoc.1 hm, fun d hd => ?_⟩
    rw [Option.mem_def.1 hd] at hsp
    simpa using hsp

theorem opensBlock_of_head {x : Char} {rest : List Char}
    (h : x = '>' ∨ (x = '-' ∨ x = '+' ∨ x = '#') ∧ ∀ d ∈ rest.head?, d = ' ') :
    opensBlock (x :: rest) = true := by
  rcases h with rfl | ⟨hm, hsp⟩
  · rfl
  · have hall : rest.head?.all (· == ' ') = true := by
      cases hr : rest.head? with
      | none => rfl
      | some d => simpa using hsp d hr
    simp only [opensBlock, isBlockMarker, hall, Bool.and_true, Bool.or_eq_true, beq_iff_eq]
    exact .inr (or_assoc.2 hm)

theorem opensBlock_eq_false_of_white {x : Char} (hx : isWhite x = true) (rest : List Char) :
    opensBlock (x :: rest) = false := by
  by_contra h
  rcases head_of_opensBlock (Bool.not_eq_false _ ▸ h) with rfl | ⟨rfl | rfl | rfl, -⟩ <;>
    exact absurd hx (by decide)

theorem opensBlock_append {x : Char} {t J K : List Char} (h : opensBlock (x :: (t ++ J)) = true)
    (hK : t = [] → ∀ d ∈ K.head?, d = ' ') : opensBlock (x :: (t ++ K)) = true := by
  apply opensBlock_of_head
  rcases head_of_opensBlock h with hq | ⟨hm, hsp⟩
  · exact .inl hq
  · refine .inr ⟨hm, ?_⟩
    cases t with
    | nil => exact hK rfl
    | cons y t => simpa using hsp

theorem spacedOpener_eq_true_iff {cs : List Char} :
    spacedOpener cs = true ↔ ∃ u v, cs = u ++ ' ' :: v ∧ opensBlock v = true := by
  induction cs with
  | nil => simp [spacedOpener]
  | cons c rest ih =>
    simp only [spacedOpener, Bool.or_eq_true, Bool.and_eq_true, beq_iff_eq, ih]
    constructor
    · rintro (⟨rfl, ho⟩ | ⟨u, v, rfl, ho⟩)
      · exact ⟨[], rest, rfl, ho⟩
      · exact ⟨c :: u, v, rfl, ho⟩
    · rintro ⟨u, v, huv, ho⟩
      cases u with
      | nil =>
        obtain ⟨rfl, rfl⟩ := List.cons.inj huv
        exact .inl ⟨rfl, ho⟩
      | cons d u =>
        obtain ⟨-, rfl⟩ := List.cons.inj huv
        exact .inr ⟨u, v, rfl, ho⟩

/-- `w` is `u` with backslashes put in. -/
inductive Backslashed : List Char → List Char → Prop
  | nil : Backslashed [] []
  | keep (c : Char) {u w : List Char} : Backslashed u w → Backslashed (c :: u) (c :: w)
  | insert {u w : List Char} : Backslashed u w → Backslashed u ('\\' :: w)

namespace Backslashed

theorem refl : ∀ u : List Char, Backslashed u u
  | [] => .nil
  | c :: u => .keep c (refl u)

theorem append {u w u' w' : List Char} (h : Backslashed u w) (h' : Backslashed u' w') :
    Backslashed (u ++ u') (w ++ w') := by
  induction h with
  | nil => exact h'
  | keep c _ ih => exact .keep c ih
  | insert _ ih => exact .insert ih

theorem eq_nil {u : List Char} (h : Backslashed u []) : u = [] := by
  cases h
  rfl

theorem cons_inv {u w : List Char} {x : Char} (h : Backslashed u (x :: w)) (hx : x ≠ '\\') :
    ∃ u', u = x :: u' ∧ Backslashed u' w := by
  cases h with
  | keep _ h => exact ⟨_, rfl, h⟩
  | insert _ => exact absurd rfl hx

theorem append_inv {u w : List Char} (A : List Char) (h : Backslashed u (A ++ w)) :
    ∃ u₁ u₂, u = u₁ ++ u₂ ∧ Backslashed u₁ A ∧ Backslashed u₂ w := by
  induction A generalizing u with
  | nil => exact ⟨[], u, rfl, .nil, h⟩
  | cons a A ih =>
    cases h with
    | keep _ h =>
      obtain ⟨u₁, u₂, rfl, h₁, h₂⟩ := ih h
      exact ⟨a :: u₁, u₂, rfl, .keep a h₁, h₂⟩
    | insert h =>
      obtain ⟨u₁, u₂, rfl, h₁, h₂⟩ := ih h
      exact ⟨u₁, u₂, rfl, .insert h₁, h₂⟩

theorem trans {u v w : List Char} (h : Backslashed u v) (h' : Backslashed v w) :
    Backslashed u w := by
  induction h' generalizing u with
  | nil => exact h
  | keep c _ ih =>
    cases h with
    | keep _ h => exact .keep c (ih h)
    | insert h => exact .insert (ih h)
  | insert _ ih => exact .insert (ih h)

theorem mem {u w : List Char} (h : Backslashed u w) {x : Char} (hx : x ∈ w) : x ∈ u ∨ x = '\\' := by
  induction h with
  | nil => simp at hx
  | keep c _ ih =>
    rcases List.mem_cons.1 hx with rfl | hx
    · exact .inl List.mem_cons_self
    · exact (ih hx).imp_left (List.mem_cons_of_mem c)
  | insert _ ih =>
    rcases List.mem_cons.1 hx with rfl | hx
    · exact .inr rfl
    · exact ih hx

/-- Backslashes put in before no marker make no line open a block. -/
theorem opensBlock {u v : List Char} (h : Backslashed u v) (ho : opensBlock v = true) :
    HtmlMarkdown.opensBlock u = true := by
  cases v with
  | nil => cases ho
  | cons x rest =>
    have hhead := head_of_opensBlock ho
    have hx : x ≠ '\\' := by rcases hhead with rfl | ⟨rfl | rfl | rfl, -⟩ <;> decide
    obtain ⟨u', rfl, h'⟩ := h.cons_inv hx
    apply opensBlock_of_head
    refine hhead.imp_right fun ⟨hm, hsp⟩ => ⟨hm, ?_⟩
    cases rest with
    | nil => simp [h'.eq_nil]
    | cons d rest =>
      have hd : d = ' ' := hsp d rfl
      subst hd
      obtain ⟨u'', rfl, -⟩ := h'.cons_inv (by decide)
      simp

theorem spacedOpener {u w : List Char} (h : Backslashed u w) (ho : spacedOpener w = true) :
    HtmlMarkdown.spacedOpener u = true := by
  obtain ⟨A, v, rfl, hv⟩ := spacedOpener_eq_true_iff.1 ho
  obtain ⟨u₁, u₂, rfl, -, h₂⟩ := h.append_inv A
  obtain ⟨u₃, rfl, h₃⟩ := h₂.cons_inv (by decide)
  exact spacedOpener_eq_true_iff.2 ⟨u₁, u₃, rfl, h₃.opensBlock hv⟩

end Backslashed

theorem backslashed_replaceSeq {p : Char} {ps rep : List Char} (h : Backslashed (p :: ps) rep)
    (cs : List Char) : Backslashed cs (replaceSeq p ps rep cs) := by
  induction cs using replaceSeq.induct p ps with
  | case1 => rw [replaceSeq]; exact .nil
  | case2 c rest hm ih =>
    -- an occurrence: the rest of the text goes on after the pattern
    obtain ⟨rfl, hpre⟩ : c = p ∧ ps.isPrefixOf rest = true := by simpa using hm
    obtain ⟨tail, rfl⟩ := List.isPrefixOf_iff_prefix.1 hpre
    rw [List.drop_left] at ih
    rw [replaceSeq_match, ← List.cons_append]
    exact h.append ih
  | case3 c rest hm ih =>
    rw [replaceSeq, if_neg hm]
    exact .keep c ih

theorem backslashed_escapeStart (st cs : List Char) : Backslashed cs (escapeStart st cs) := by
  unfold escapeStart
  split
  · exact .insert (.refl cs)
  · exact .refl cs

theorem backslashed_escapeLooseUnderscores (cs : List Char) :
    Backslashed cs (escapeLooseUnderscores cs) := by
  induction cs using escapeLooseUnderscores.induct with
  | case1 => exact .nil
  | case2 d rest hd ih =>
    rw [escapeLooseUnderscores, if_pos hd]
    exact .keep '_' ih
  | case3 d rest hd ih =>
    rw [escapeLooseUnderscores, if_neg hd]
    exact .insert (.keep '_' (.keep d ih))
  | case4 c rest hc ih =>
    -- no underscore with a character after it: the character is passed on
    rw [escapeLooseUnderscores.eq_def]
    split
    · rename_i heq
      exact absurd heq (List.cons_ne_nil _ _)
    · rename_i d r heq
      obtain ⟨rfl, rfl⟩ := List.cons.inj heq
      exact (hc d r rfl rfl).elim
    · rename_i heq
      obtain ⟨rfl, rfl⟩ := List.cons.inj heq
      exact .keep c ih

theorem StockEscape.backslashed_rewrite (r : StockEscape) (cs : List Char) :
    Backslashed cs (r.rewrite cs) := by
  cases r with
  | plusItem | minusItem | leadingUnderscore => exact backslashed_escapeStart _ cs
  | looseUnderscore => exact backslashed_escapeLooseUnderscores cs
  | spaceUnderscore => exact backslashed_replaceSeq (.keep ' ' (.insert (.refl _))) cs
  | doubleUnderscore => exact backslashed_replaceSeq (.insert (.keep '_' (.insert (.refl _)))) cs
  | backslashPair => exact backslashed_replaceSeq (.insert (.insert (.refl _))) cs
  | backslashDollar | backslashPercent | backslashAmpersand | backslashDot | backslashBracket
  | backslashBrace | asterisk => exact backslashed_replaceSeq (.insert (.refl _)) cs

theorem escape_backslashed (t : String) :
    Backslashed t.toList (escape defaultEscapeRules t).toList := by
  rw [defaultEscapeRules, escape_stock_toList]
  generalize t.toList = cs
  induction StockEscape.all generalizing cs with
  | nil => exact .refl cs
  | cons r rs ih => exact (r.backslashed_rewrite cs).trans (ih _)

theorem two_le_of_linkLength? {cs : List Char} {v : {n : Nat // 0 < n}}
    (h : linkLength? cs = some v) : 2 ≤ v.1 := by
  have hv : (linkLength? cs).map Subtype.val = some v.1 := by rw [h]; rfl
  rw [linkLength?_map_val] at hv
  obtain ⟨b, -, he⟩ := List.exists_of_findSome?_eq_some hv
  unfold linkEndAt at he
  split at he
  · obtain ⟨e, he, hve⟩ := Option.map_eq_some_iff.1 he
    obtain ⟨i, j, -, -, rfl⟩ := linkTail?_eq_some.1 he
    have := le_extendSolid cs (b + 1 + (i + 2 + j + 1))
    omega
  · cases he

theorem two_le_of_codeLength? {cs : List Char} {v : {n : Nat // 0 < n}}
    (h : codeLength? cs = some v) : 2 ≤ v.1 := by
  have hv : (codeLength? cs).map Subtype.val = some v.1 := by rw [h]; rfl
  rw [codeLength?_map_val] at hv
  obtain ⟨b, -, hj⟩ := Option.bind_eq_some_iff.1 hv
  obtain ⟨j, -, hve⟩ := Option.map_eq_some_iff.1 hj
  have := le_extendSolid cs (b + 1 + j + 1)
  omega

theorem two_le_of_shortcodeLength? {cs : List Char} {v : {n : Nat // 0 < n}}
    (h : shortcodeLength? cs = some v) : 2 ≤ v.1 := by
  have hv : (shortcodeLength? cs).map Subtype.val = some v.1 := by rw [h]; rfl
  rw [shortcodeLength?_map_val] at hv
  split at hv
  · obtain ⟨i, -, hve⟩ := Option.map_eq_some_iff.1 hv
    have := le_extendSolid cs (solidLength cs + 1 + i + 4)
    omega
  · cases hv

theorem nextChunk_word_of_one {r : Bool} {c : Char} {rest : List Char} {k : ChunkKind}
    {n : {n : Nat // 0 < n}} (h : nextChunk r c rest = (k, n)) (h1 : n.1 = 1) : k = .word := by
  unfold nextChunk at h
  split at h
  · next v hl =>
    obtain ⟨-, rfl⟩ := Prod.mk.inj h
    exact absurd (two_le_of_linkLength? hl) (by omega)
  · split at h
    · next v hc =>
      obtain ⟨-, rfl⟩ := Prod.mk.inj h
      exact absurd (two_le_of_codeLength? hc) (by omega)
    · split at h
      · next v hs =>
        obtain ⟨-, rfl⟩ := Prod.mk.inj h
        have hs' : shortcodeLength? (c :: rest) = some v := by
          cases r
          · cases hs
          · exact hs
        exact absurd (two_le_of_shortcodeLength? hs') (by omega)
      · exact (Prod.mk.inj h).1.symm

theorem scanChunks_eq_cons_spaced {r : Bool} {Y : List Char} {ch : Chunk} {rest : List Chunk}
    (h : scanChunks r Y = ch :: rest) :
    ∃ m Y', Y = List.replicate m ' ' ++ ch.text.toList ++ Y' ∧
      (ch.text.toList.length = 1 → ∀ d ∈ Y'.head?, d = ' ') := by
  induction Y using scanChunks.induct r with
  | case1 => simp [scanChunks] at h
  | case2 Y ih =>
    rw [scanChunks_space] at h
    obtain ⟨m, Y', rfl, h1⟩ := ih h
    exact ⟨m + 1, Y', by simp [List.replicate_succ], h1⟩
  | case3 c Y hc k n hn hnext _ =>
    rw [scanChunks_cons_of_nextChunk hc hnext, List.cons.injEq] at h
    obtain ⟨rfl, rfl⟩ := h
    obtain ⟨hle, -, -, hword⟩ := nextChunk_bounds hc hnext
    refine ⟨0, (c :: Y).drop n, by simp, fun h1 => hword (nextChunk_word_of_one hnext ?_)⟩
    simp only [String.toList_ofList, List.length_take] at h1 hle ⊢
    omega

theorem scanChunks_eq_append_white {r : Bool} {L : List Char} {pre rest : List Chunk}
    (h : scanChunks r L = pre ++ rest) (hpre : pre ≠ []) :
    ∃ P L', L = P ++ L' ∧ WhiteStart L' ∧ scanChunks r L' = rest := by
  induction pre generalizing L with
  | nil => exact absurd rfl hpre
  | cons p pre ih =>
    obtain ⟨m, Y, rfl, hY, hwhite, -⟩ := scanChunks_eq_cons h
    cases pre with
    | nil => exact ⟨List.replicate m ' ' ++ p.text.toList, Y, rfl, hwhite, hY⟩
    | cons q pre =>
      obtain ⟨P, L', rfl, hL', hscan⟩ := ih hY (List.cons_ne_nil _ _)
      exact ⟨List.replicate m ' ' ++ p.text.toList ++ P, L', by simp, hL', hscan⟩

theorem scanChunks_later {r : Bool} {L : List Char} {pre post : List Chunk} {ch : Chunk}
    (h : scanChunks r L = pre ++ ch :: post) (hpre : pre ≠ []) :
    ∃ A B, L = A ++ ch.text.toList ++ B ∧ (A.getLast? = some ' ' ∨ WhiteStart ch.text.toList) ∧
      (ch.text.toList.length = 1 → ∀ d ∈ B.head?, d = ' ') := by
  obtain ⟨P, L', rfl, hwhite, hscan⟩ := scanChunks_eq_append_white h hpre
  obtain ⟨m, B, rfl, hone⟩ := scanChunks_eq_cons_spaced hscan
  refine ⟨P ++ List.replicate m ' ', B, by simp, ?_, hone⟩
  cases m with
  | zero =>
    refine .inr fun d hd => hwhite d ?_
    simp [List.head?_append, Option.mem_def.1 hd]
  | succ m => exact .inl (by simp [List.replicate_succ'])

theorem mem_tail_mapLast {α : Type} {f : α → α} {xs : List α} {x : α}
    (h : x ∈ (mapLast f xs).tail) : ∃ y ∈ xs.tail, x = y ∨ x = f y := by
  match xs, h with
  | [_], h => simp [mapLast] at h
  | _ :: _ :: _, h =>
    rw [mapLast, List.tail_cons] at h
    exact mem_mapLast h

theorem later_group_start {r : Bool} {C : List Char} {gs : List (List Chunk)}
    (hflat : gs.flatten = scanChunks r C) (hgs : ∀ g ∈ gs, g ≠ []) {g : List Chunk}
    (hg : g ∈ gs.tail) :
    ∃ ch g', g = ch :: g' ∧ ch ∈ scanChunks r C ∧
      ∃ A B, C = A ++ ch.text.toList ++ B ∧ (A.getLast? = some ' ' ∨ WhiteStart ch.text.toList) ∧
        (ch.text.toList.length = 1 → ∀ d ∈ B.head?, d = ' ') := by
  obtain ⟨g₀, gs', rfl⟩ : ∃ g₀ gs', gs = g₀ :: gs' := by
    cases gs with
    | nil => simp at hg
    | cons g₀ gs' => exact ⟨g₀, gs', rfl⟩
  rw [List.tail_cons] at hg
  obtain ⟨ch, g', rfl⟩ := List.exists_cons_of_ne_nil (hgs _ (List.mem_cons_of_mem _ hg))
  obtain ⟨A, B, hAB⟩ := List.append_of_mem (List.mem_flatten_of_mem hg List.mem_cons_self)
  have hsplit : scanChunks r C = (g₀ ++ A) ++ ch :: B := by
    rw [← hflat, List.flatten_cons, hAB, List.append_assoc]
  refine ⟨ch, g', rfl, by rw [hsplit]; simp, ?_⟩
  exact scanChunks_later hsplit (by simp [hgs g₀ List.mem_cons_self])

theorem wrapLine_tail_opensBlock {width : Nat} {E : List Char} {out : String}
    (h : wrapLine .disabled width (String.ofList E) = .ok out) {l : List Char}
    (hl : l ∈ (out.toList.splitOn '\n').tail) (ho : opensBlock l = true) :
    spacedOpener E = true := by
  have hlf : '\n' ∉ E := by simpa using not_mem_of_wrapLine_ok h
  -- a line that fits, or that is blank, is written as it is, on one line
  have hone : out.toList = E → False := by
    intro hout
    rw [hout, List.splitOn_eq_singleton hlf] at hl
    simp at hl
  by_cases hfit : E.length ≤ width
  · rw [wrapLine_of_fits .disabled hlf hfit, Except.ok.injEq] at h
    exact (hone (by rw [← h, String.toList_ofList])).elim
  by_cases hblank : ∀ c ∈ E, c = ' '
  · rw [wrapLine_of_blank .disabled width hblank, Except.ok.injEq] at h
    exact (hone (by rw [← h, String.toList_ofList])).elim
  have hsolid : ∃ c ∈ E, c ≠ ' ' := by
    by_contra hno
    exact hblank fun c hc => by_contra fun hne => hno ⟨c, hc, hne⟩
  obtain ⟨I, C, Tr, rfl, hp⟩ := exists_lineParts hsolid
  have hlfC : '\n' ∉ C := fun hm => hlf (List.mem_append_left _ (List.mem_append_right _ hm))
  obtain ⟨gs, hflat, hgs, hw⟩ :=
    wrapLine_eq_groups (show PlainFor .disabled C from .inl (by decide)) hp hlfC
      (Nat.lt_of_not_le hfit)
  rw [hw, Except.ok.injEq] at h
  subst h
  rw [String.toList_ofList, splitOn_wrapped_groups hp hlfC hflat] at hl
  obtain ⟨y, hy, hly⟩ := mem_tail_mapLast hl
  rw [← List.map_tail] at hy
  obtain ⟨g, hg, rfl⟩ := List.mem_map.1 hy
  -- the line is the group of a chunk `ch` that comes after the first group
  obtain ⟨ch, g', rfl, hchunk, A', B', hC, hstart, hsingle⟩ :=
    later_group_start hflat (fun g hg => (hgs g hg).1) hg
  obtain ⟨x, t, hxt, -⟩ := (mem_scanChunks hchunk).2.1
  cases I with
  | cons i I =>
    -- an indented line starts with a space
    have hi : i = ' ' := hp.indent i List.mem_cons_self
    obtain ⟨J, rfl⟩ : ∃ J, l = i :: J := by rcases hly with rfl | rfl <;> exact ⟨_, rfl⟩
    rw [hi, opensBlock_eq_false_of_white isWhite_space] at ho
    cases ho
  | nil =>
    obtain ⟨J, rfl⟩ : ∃ J, l = x :: (t ++ J) := by
      rcases hly with rfl | rfl
      · exact ⟨g'.flatMap fun d => ' ' :: d.text.toList, by simp [joinChunks, hxt]⟩
      · exact ⟨(g'.flatMap fun d => ' ' :: d.text.toList) ++ Tr, by simp [joinChunks, hxt]⟩
    -- the chunk cannot start with white space, so a space stands before it
    obtain ⟨A'', rfl⟩ : ∃ A'', A' = A'' ++ [' '] := by
      rcases hstart with hlast | hwhite
      · exact ⟨A'.dropLast, (List.dropLast_append_getLast? _ hlast).symm⟩
      · rw [hxt] at hwhite
        rw [opensBlock_eq_false_of_white (hwhite x rfl)] at ho
        cases ho
    refine spacedOpener_eq_true_iff.2 ⟨A'', x :: (t ++ (B' ++ Tr)), by simp [hC, hxt], ?_⟩
    refine opensBlock_append ho fun ht => ?_
    subst ht
    cases B' with
    | nil => exact fun d hd => hp.trailing d (List.mem_of_mem_head? hd)
    | cons b B' => exact fun d hd => hsingle (by simp [hxt]) d (by simpa using hd)

/-- No line after the first of an escaped and wrapped text opens a block, when no space precedes an
opener. -/
theorem wrapLine_escape_opens_no_block {t : String} (hlf : '\n' ∉ t.toList)
    (hsp : spacedOpener t.toList = false) (width : Nat) :
    ∃ out, wrapLine .disabled width (escape defaultEscapeRules t) = .ok out ∧
      ∀ l ∈ (out.toList.splitOn '\n').tail, opensBlock l = false := by
  have hesc := escape_backslashed t
  -- escaping puts in no line feed, so wrapping succeeds
  have hlfE : '\n' ∉ (escape defaultEscapeRules t).toList := fun hm =>
    (hesc.mem hm).elim hlf (by decide)
  obtain ⟨out, hout⟩ := wrapLine_ok (show ShortcodeMode.disabled ≠ .split by decide) width hlfE
  refine ⟨out, hout, fun l hl => ?_⟩
  -- a line that opens a block stems from a space of the escaped text, and so of the text
  rw [← String.ofList_toList (s := escape defaultEscapeRules t)] at hout
  by_contra ho
  have hE := wrapLine_tail_opensBlock hout hl (by simpa using ho)
  rw [hesc.spacedOpener hE] at hsp
  cases hsp

theorem wrapLine_escape_spaced_words :
    '\n' ∉ "a -b +c #d".toList ∧ spacedOpener "a -b +c #d".toList = false ∧
      ∃ out, wrapLine .disabled 1 (escape defaultEscapeRules "a -b +c #d") = .ok out ∧
        ∀ l ∈ (out.toList.splitOn '\n').tail, opensBlock l = false :=
  ⟨by decide, by decide, wrapLine_escape_opens_no_block (by decide) (by decide) 1⟩

theorem wrapLine_escape_quote_marker :
    wrapLine .disabled 1 (escape defaultEscapeRules "a > b") = .ok "a\n>\nb" ∧
      ">".toList ∈ ("a\n>\nb".toList.splitOn '\n').tail ∧ opensBlock ">".toList = true ∧
      spacedOpener "a > b".toList = true :=
  ⟨by decide +kernel, by decide, by decide, by decide⟩

end HtmlMarkdown
