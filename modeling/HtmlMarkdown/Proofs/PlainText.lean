import HtmlMarkdown.Proofs.LineWidth
import HtmlMarkdown.Proofs.InlineSpans
import HtmlMarkdown.Convert.Whitespace

namespace HtmlMarkdown

/-- No word of the text, a piece without blanks, has more than `B` characters. -/
def WordsWithin (B : Nat) (cs : List Char) : Prop :=
  ∀ w, w <:+: cs → (∀ x ∈ w, isMarkupBlank x = false) → w.length ≤ B

/-- A line of letters, digits and spaces that neither starts nor ends with a space. -/
structure PlainLine (cs : List Char) : Prop where
  chars : ∀ x ∈ cs, x.isAlphanum ∨ x = ' '
  head : cs.head? ≠ some ' '
  last : cs.getLast? ≠ some ' '

theorem WordsWithin.of_isInfix {B : Nat} {a b : List Char} (h : WordsWithin B b) (hab : a <:+: b) :
    WordsWithin B a :=
  fun w hw hb => h w (hw.trans hab) hb

theorem ne_of_isAlphanum {x c : Char} (hx : x.isAlphanum) (hc : c.isAlphanum = false) : x ≠ c := by
  rintro rfl
  simp [hc] at hx

theorem isMarkupBlank_of_isAlphanum {x : Char} (hx : x.isAlphanum) : isMarkupBlank x = false := by
  simp only [isMarkupBlank, Bool.or_eq_false_iff, beq_eq_false_iff_ne]
  exact ⟨⟨⟨⟨ne_of_isAlphanum hx rfl, ne_of_isAlphanum hx rfl⟩, ne_of_isAlphanum hx rfl⟩,
    ne_of_isAlphanum hx rfl⟩, ne_of_isAlphanum hx rfl⟩

section Normalize

theorem mem_collapseBlanks {b : Bool} {l : List Char} {x : Char} (h : x ∈ collapseBlanks b l) :
    (x ∈ l ∧ isMarkupBlank x = false) ∨ x = ' ' := by
  induction l generalizing b with
  | nil => simp [collapseBlanks] at h
  | cons c l ih =>
    simp only [collapseBlanks] at h
    split at h
    · split at h
      · exact (ih h).imp_left fun h' => ⟨List.mem_cons_of_mem c h'.1, h'.2⟩
      · rcases List.mem_cons.1 h with rfl | h
        · exact .inr rfl
        · exact (ih h).imp_left fun h' => ⟨List.mem_cons_of_mem c h'.1, h'.2⟩
    · next hc =>
      rcases List.mem_cons.1 h with rfl | h
      · exact .inl ⟨List.mem_cons_self, by simpa using hc⟩
      · exact (ih h).imp_left fun h' => ⟨List.mem_cons_of_mem c h'.1, h'.2⟩

theorem prefix_of_collapseBlanks (l : List Char) :
    ∀ w, (∀ x ∈ w, isMarkupBlank x = false) → w <+: collapseBlanks false l → w <+: l := by
  induction l with
  | nil => exact fun _ _ h => h
  | cons c l ih =>
    intro w hw h
    cases w with
    | nil => exact List.nil_prefix
    | cons y w =>
      simp only [collapseBlanks, Bool.false_eq_true, if_false] at h
      split at h
      · obtain ⟨rfl, -⟩ := List.cons_prefix_cons.1 h
        exact absurd (hw ' ' List.mem_cons_self) (by decide)
      · obtain ⟨rfl, hpre⟩ := List.cons_prefix_cons.1 h
        exact List.cons_prefix_cons.2
          ⟨rfl, ih w (fun x hx => hw x (List.mem_cons_of_mem _ hx)) hpre⟩

theorem infix_of_collapseBlanks (l : List Char) :
    ∀ b w, (∀ x ∈ w, isMarkupBlank x = false) → w <:+: collapseBlanks b l → w <:+: l := by
  induction l with
  | nil => exact fun _ _ _ h => h
  | cons c l ih =>
    intro b w hw h
    have hrest : ∀ b, w <:+: collapseBlanks b l → w <:+: c :: l :=
      fun b h => (ih b w hw h).trans (List.suffix_cons c l).isInfix
    simp only [collapseBlanks] at h
    split at h
    · split at h
      · exact hrest true h
      · rcases List.infix_cons_iff.1 h with h | h
        · cases w with
          | nil => exact List.nil_infix
          | cons y w =>
            obtain ⟨rfl, -⟩ := List.cons_prefix_cons.1 h
            exact absurd (hw ' ' List.mem_cons_self) (by decide)
        · exact hrest true h
    · rcases List.infix_cons_iff.1 h with h | h
      · cases w with
        | nil => exact List.nil_infix
        | cons y w =>
          obtain ⟨rfl, hpre⟩ := List.cons_prefix_cons.1 h
          exact (List.cons_prefix_cons.2 ⟨rfl, prefix_of_collapseBlanks l w
            (fun x hx => hw x (List.mem_cons_of_mem _ hx)) hpre⟩).isInfix
      · exact hrest false h

theorem normalizeValue_isInfix (v : String) (trimStart trimEnd : Bool) :
    (normalizeValue v trimStart trimEnd).toList <:+: collapseBlanks false v.toList := by
  have hend : ∀ cs : List Char, dropEndBy (· == ' ') cs <:+: cs := fun cs => by
    simpa [dropEndBy] using (List.dropWhile_suffix (l := cs.reverse) (· == ' ')).reverse.isInfix
  simp only [normalizeValue, String.toList_ofList]
  split <;> split
  · exact (hend _).trans (List.dropWhile_suffix _).isInfix
  · exact hend _
  · exact (List.dropWhile_suffix _).isInfix
  · exact List.infix_refl _

theorem wordsWithin_normalizeValue {B : Nat} {v : String} (h : WordsWithin B v.toList)
    (trimStart trimEnd : Bool) : WordsWithin B (normalizeValue v trimStart trimEnd).toList :=
  fun w hw hb => h w (infix_of_collapseBlanks _ false w hb
    (hw.trans (normalizeValue_isInfix v trimStart trimEnd))) hb

theorem head?_dropEndBy_ne {cs : List Char} (h : cs.head? ≠ some ' ') :
    (dropEndBy (· == ' ') cs).head? ≠ some ' ' := by
  have hpre : dropEndBy (· == ' ') cs <+: cs := by
    simpa [dropEndBy] using (List.dropWhile_suffix (l := cs.reverse) (· == ' ')).reverse
  intro he
  obtain ⟨t, ht⟩ := hpre
  apply h
  rw [← ht, List.head?_append, he]
  rfl

theorem getLast?_dropEndBy_ne (cs : List Char) : (dropEndBy (· == ' ') cs).getLast? ≠ some ' ' := by
  rw [dropEndBy, List.getLast?_reverse]
  have := List.head?_dropWhile_not (· == ' ') cs.reverse
  intro he
  rw [he] at this
  exact absurd this (by decide)

theorem plainLine_normalizeValue {v : String} (hv : ∀ x ∈ v.toList, x.isAlphanum ∨ isMarkupBlank x) :
    PlainLine (normalizeValue v true true).toList := by
  refine ⟨fun x hx => ?_, ?_, ?_⟩
  · rcases mem_collapseBlanks ((normalizeValue_isInfix v true true).subset hx) with ⟨hm, hb⟩ | h
    · exact .inl ((hv x hm).resolve_right (by simp [hb]))
    · exact .inr h
  · simp only [normalizeValue, String.toList_ofList, if_true]
    apply head?_dropEndBy_ne
    have := List.head?_dropWhile_not (· == ' ') (collapseBlanks false v.toList)
    intro he
    rw [he] at this
    exact absurd this (by decide)
  · simp only [normalizeValue, String.toList_ofList, if_true]
    exact getLast?_dropEndBy_ne _

end Normalize

section Escape

theorem replaceSeq_of_not_mem {p : Char} {ps rep cs : List Char} (h : p ∉ cs) :
    replaceSeq p ps rep cs = cs := by
  fun_induction replaceSeq p ps rep cs with
  | case1 => rfl
  | case2 c rest hc ih =>
    simp only [Bool.and_eq_true, decide_eq_true_eq] at hc
    exact absurd (hc.1 ▸ List.mem_cons_self) h
  | case3 c rest hc ih =>
    rw [ih (fun h' => h (List.mem_cons_of_mem c h'))]

theorem replaceSeq_of_not_mem_head {p q : Char} {qs rep cs : List Char} (h : q ∉ cs) :
    replaceSeq p (q :: qs) rep cs = cs := by
  fun_induction replaceSeq p (q :: qs) rep cs with
  | case1 => rfl
  | case2 c rest hc ih =>
    cases rest with
    | nil => simp [List.isPrefixOf] at hc
    | cons d rest =>
      simp only [List.isPrefixOf, Bool.and_eq_true, beq_iff_eq, decide_eq_true_eq] at hc
      exact absurd (by simp [hc.2.1] : q ∈ c :: d :: rest) h
  | case3 c rest hc ih =>
    rw [ih (fun h' => h (List.mem_cons_of_mem c h'))]

theorem escapeLooseUnderscores_of_not_mem {cs : List Char} (h : '_' ∉ cs) :
    escapeLooseUnderscores cs = cs := by
  induction cs with
  | nil => rfl
  | cons c cs ih =>
    have hc : c ≠ '_' := fun e => h (e ▸ List.mem_cons_self)
    rw [escapeLooseUnderscores.eq_3 _ _ (fun _ _ e _ => hc e),
      ih (fun h' => h (List.mem_cons_of_mem c h'))]

theorem escapeStart_of_head {start cs : List Char} (h : start.head? ≠ cs.head?) (hs : start ≠ []) :
    escapeStart start cs = cs := by
  unfold escapeStart
  rw [if_neg]
  intro hpre
  obtain ⟨s, ss, rfl⟩ := List.exists_cons_of_ne_nil hs
  cases cs with
  | nil => simp [List.isPrefixOf] at hpre
  | cons c cs =>
    simp only [List.isPrefixOf, Bool.and_eq_true, beq_iff_eq] at hpre
    exact h (by simp [hpre.1])

theorem StockEscape.rewrite_plain (r : StockEscape) {cs : List Char}
    (h : ∀ x ∈ cs, x.isAlphanum ∨ x = ' ') : r.rewrite cs = cs := by
  have hnot : ∀ c : Char, c.isAlphanum = false → c ≠ ' ' → c ∉ cs := fun c hc hsp hm => by
    rcases h c hm with h | h
    · exact ne_of_isAlphanum h hc rfl
    · exact hsp h
  have hhead : ∀ c : Char, c.isAlphanum = false → c ≠ ' ' → [c].head? ≠ cs.head? := by
    intro c hc hsp he
    cases cs with
    | nil => simp at he
    | cons d ds => exact hnot c hc hsp (by simp at he; simp [he])
  cases r with
  | plusItem => exact escapeStart_of_head (hhead '+' rfl (by decide)) (by simp)
  | minusItem => exact escapeStart_of_head (hhead '-' rfl (by decide)) (by simp)
  | looseUnderscore => exact escapeLooseUnderscores_of_not_mem (hnot '_' rfl (by decide))
  | spaceUnderscore => exact replaceSeq_of_not_mem_head (hnot '_' rfl (by decide))
  | leadingUnderscore => exact escapeStart_of_head (hhead '_' rfl (by decide)) (by simp)
  | doubleUnderscore => exact replaceSeq_of_not_mem (hnot '_' rfl (by decide))
  | backslashPair | backslashDollar | backslashPercent | backslashAmpersand | backslashDot
  | backslashBracket | backslashBrace => exact replaceSeq_of_not_mem (hnot '\\' rfl (by decide))
  | asterisk => exact replaceSeq_of_not_mem (hnot '*' rfl (by decide))

theorem escape_plain {s : String} (h : ∀ x ∈ s.toList, x.isAlphanum ∨ x = ' ') :
    escape defaultEscapeRules s = s := by
  unfold escape defaultEscapeRules
  -- every rule passes the text on unchanged
  have hstep : ∀ rs : List StockEscape, (rs.map EscapeRule.stock).foldl (fun t r => r.apply t) s = s := by
    intro rs
    induction rs with
    | nil => rfl
    | cons r rs ih =>
      rw [List.map_cons, List.foldl_cons]
      have hr : EscapeRule.apply (.stock r) s = s := by
        rw [EscapeRule.apply, r.rewrite_plain h, String.ofList_toList]
      rw [hr, ih]
  exact hstep _

theorem decodeReferences_of_not_mem {cs : List Char} (h : '&' ∉ cs) : decodeReferences cs = cs := by
  fun_induction decodeReferences cs with
  | case1 => rfl
  | case2 => exact absurd List.mem_cons_self h
  | case3 => exact absurd List.mem_cons_self h
  | case4 c rest hc ih => rw [ih (fun h' => h (List.mem_cons_of_mem c h'))]

theorem replaceText_of_not_mem {pat rep s : String} {p : Char} (hp : pat.toList.head? = some p)
    (h : p ∉ s.toList) : replaceText pat rep s = s := by
  obtain ⟨qs, hpat⟩ : ∃ qs, pat.toList = p :: qs := by
    cases hq : pat.toList with
    | nil => simp [hq] at hp
    | cons q qs => exact ⟨qs, by rw [hq] at hp; cases hp; rfl⟩
  rw [replaceText, hpat]
  dsimp only
  rw [replaceSeq_of_not_mem h, String.ofList_toList]

theorem decodeText_plain {s : String} (h : ∀ x ∈ s.toList, x.isAlphanum ∨ x = ' ') :
    decodeText s = s := by
  have hnot : ∀ c : Char, c.isAlphanum = false → c ≠ ' ' → c ∉ s.toList := fun c hc hsp hm => by
    rcases h c hm with h | h
    · exact ne_of_isAlphanum h hc rfl
    · exact hsp h
  have hshield : ∀ c : Char, c.isAlphanum = false → c ≠ ' ' → c.toString.toList.head? = some c :=
    fun c _ _ => by simp only [Char.toString_eq_singleton, String.toList_singleton, List.head?_cons]
  unfold decodeText
  dsimp only
  rw [replaceText_of_not_mem (p := '&') rfl (hnot '&' rfl (by decide)),
    replaceText_of_not_mem (p := '&') rfl (hnot '&' rfl (by decide)), decodeEntities,
    decodeReferences_of_not_mem (hnot '&' rfl (by decide)), String.ofList_toList,
    replaceText_of_not_mem (hshield ltShield (by decide) (by decide))
      (hnot ltShield (by decide) (by decide)),
    replaceText_of_not_mem (hshield gtShield (by decide) (by decide))
      (hnot gtShield (by decide) (by decide))]

end Escape

section Wrap

theorem codeLength?_eq_none_of_not_mem {cs : List Char} (h : '`' ∉ cs) : codeLength? cs = none := by
  have hfind : findSeq? ['`'] (cs.take (solidLength cs)) = none :=
    findSeq?_eq_none_of_not_mem fun hm => h (List.mem_of_mem_take hm)
  simp [codeLength?, hfind]

theorem nextChunk_word {c : Char} {rest : List Char} (hb : ']' ∉ c :: rest) (ht : '`' ∉ c :: rest) :
    nextChunk false c rest = (.word, ⟨wordLength rest, Nat.add_pos_left Nat.one_pos _⟩) := by
  have hlink : linkLength? (c :: rest) = none :=
    linkLength?_eq_none fun hin => hb (hin.subset (List.mem_cons_self))
  unfold nextChunk
  simp [hlink, codeLength?_eq_none_of_not_mem ht]

theorem scanChunks_plain {L : List Char} (h : ∀ x ∈ L, x.isAlphanum ∨ x = ' ') :
    ∀ ch ∈ scanChunks false L, ' ' ∉ ch.text.toList := by
  induction L using scanChunks.induct false with
  | case1 => simp [scanChunks]
  | case2 rest ih =>
    rw [scanChunks_space]
    exact ih fun x hx => h x (List.mem_cons_of_mem _ hx)
  | case3 c rest hc k n hn hnext ih =>
    have hnot : ∀ d : Char, d.isAlphanum = false → d ≠ ' ' → d ∉ c :: rest := fun d hd hsp hm => by
      rcases h d hm with h | h
      · exact ne_of_isAlphanum h hd rfl
      · exact hsp h
    have hword := nextChunk_word (hnot ']' rfl (by decide)) (hnot '`' rfl (by decide))
    rw [hword] at hnext
    cases hnext
    rw [scanChunks_cons_of_nextChunk hc hword]
    intro ch hch
    rcases List.mem_cons.1 hch with rfl | hch
    · have htake : rest.take (rest.takeWhile (· != ' ')).length = rest.takeWhile (· != ' ') := by
        have h := @List.take_left Char (rest.takeWhile (· != ' ')) (rest.dropWhile (· != ' '))
        rwa [List.takeWhile_append_dropWhile] at h
      simp only [String.toList_ofList, wordLength, Nat.add_comm 1, List.take_succ_cons, htake,
        List.mem_cons, not_or]
      exact ⟨Ne.symm hc, fun hm => by simpa using List.mem_takeWhile_imp hm⟩
    · exact ih (fun x hx => h x ((List.drop_sublist _ _).subset hx)) ch hch
theorem PlainLine.not_mem {cs : List Char} (h : PlainLine cs) {c : Char} (hc : c.isAlphanum = false)
    (hsp : c ≠ ' ') : c ∉ cs := fun hm => by
  rcases h.chars c hm with h | h
  · exact ne_of_isAlphanum h hc rfl
  · exact hsp h

theorem wrapText_of_line (mode : ShortcodeMode) (W : Nat) {v : List Char} (hlf : '\n' ∉ v)
    (hne : v ≠ []) :
    wrapText mode W (String.ofList v) = wrapLine mode W (dropCarriageReturn (String.ofList v)) := by
  unfold wrapText
  rw [if_neg (by simpa [String.isEmpty_iff, ← String.toList_inj] using hne), String.toList_ofList,
    List.splitOn_eq_singleton hlf]
  simp only [List.mapM_cons, List.mapM_nil]
  cases wrapLine mode W (dropCarriageReturn (String.ofList v)) with
  | error e => rfl
  | ok o => simp [bind, Except.bind, pure, Except.pure]

/-- Wrapping a plain line to a width that its words fit gives lines that fit. -/
theorem fits_wrapText_plain {W : Nat} {v : List Char} (hv : PlainLine v) (hw : WordsWithin W v) :
    ∃ out, wrapText .disabled W (String.ofList v) = .ok out ∧ Fits W out.toList := by
  by_cases hnil : v = []
  · subst hnil
    exact ⟨"", rfl, fits_nil⟩
  have hlf : '\n' ∉ v := hv.not_mem rfl (by decide)
  rw [wrapText_of_line _ _ hlf hnil, dropCarriageReturn_of_not_mem (hv.not_mem rfl (by decide))]
  by_cases hlen : v.length ≤ W
  · refine ⟨_, wrapLine_of_fits _ hlf hlen, fits_line ?_⟩
    rw [String.toList_ofList]
    exact (lineWidth_le_length v).trans hlen
  -- a long line is filled with its words, each group of them on a line that fits
  obtain ⟨c, t, hct⟩ := List.exists_cons_of_ne_nil hnil
  have hc : c ≠ ' ' := fun e => hv.head (by rw [hct, e]; rfl)
  have hsolid : ∀ x ∈ v, x ≠ ' ' → isMarkupBlank x = false := fun x hx hsp =>
    isMarkupBlank_of_isAlphanum ((hv.chars x hx).resolve_right hsp)
  have hW : 1 ≤ W := hw [c] (by rw [hct]; exact (List.cons_prefix_cons.2 ⟨rfl,
    List.nil_prefix⟩).isInfix) (by simpa using hsolid c (by simp [hct]) hc)
  have hp : LineParts [] v [] := ⟨by simp, by simp, ⟨c, t, hct, hc⟩, fun x hx e => hv.last (e ▸ hx)⟩
  obtain ⟨gs, hflat, hgs, hwrap⟩ :=
    wrapLine_eq_groups (Or.inl (by decide : ShortcodeMode.disabled ≠ .split)) hp
    hlf (by simpa using hlen)
  simp only [List.nil_append, List.append_nil] at hwrap
  refine ⟨_, hwrap, ?_⟩
  rw [String.toList_ofList]
  apply fits_intercalate
  intro l hl
  obtain ⟨y, hy, hly⟩ := mem_mapLast hl
  obtain ⟨g, hg, rfl⟩ := List.mem_map.1 hy
  have hl' : l = joinChunks g := by simpa using hly
  subst hl'
  -- the chunks of the group are words of the line
  have hchunk : ∀ ch ∈ g, ch.text.toList <:+: v ∧ ' ' ∉ ch.text.toList := by
    intro ch hch
    have hmem : ch ∈ scanChunks false v := by
      rw [← show scanChunks (ShortcodeMode.disabled != .disabled) v = scanChunks false v from rfl,
        ← hflat]
      exact List.mem_flatten.2 ⟨g, hg, hch⟩
    exact ⟨(mem_scanChunks hmem).1, scanChunks_plain hv.chars ch hmem⟩
  refine ⟨fun hm => ?_, ?_⟩
  · rcases mem_joinChunks hm with h | ⟨ch, hch, hx⟩
    · exact absurd h (by decide)
    · exact hlf ((hchunk ch hch).1.subset hx)
  · refine (lineWidth_le_length _).trans ?_
    rcases (hgs g hg).2 with hone | hfit
    · obtain ⟨ch, rfl⟩ : ∃ ch, g = [ch] := by
        match g, (hgs g hg).1, hone with
        | [ch], _, _ => exact ⟨ch, rfl⟩
      rw [joinChunks_singleton]
      obtain ⟨hin, hsp⟩ := hchunk ch List.mem_cons_self
      exact hw _ hin fun x hx => hsolid x (hin.subset hx) fun e => hsp (e ▸ hx)
    · simpa [Nat.max_eq_right hW] using hfit

end Wrap

end HtmlMarkdown
