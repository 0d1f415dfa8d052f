import HtmlMarkdown.Proofs.Layout

namespace HtmlMarkdown

/-- `Spaced ts L`: the line `L` is the texts `ts` with runs of spaces around and between them; a run
between is empty only before white space. -/
inductive Spaced : List (List Char) → List Char → Prop
  | blank (m : Nat) : Spaced [] (List.replicate m ' ')
  | text (m : Nat) {t Y : List Char} {ts : List (List Char)} :
      WhiteStart Y → Spaced ts Y → Spaced (t :: ts) (List.replicate m ' ' ++ t ++ Y)

theorem Spaced.cons_space {ts : List (List Char)} {L : List Char} (h : Spaced ts L) :
    Spaced ts (' ' :: L) := by
  cases h with
  | blank m => simpa [List.replicate_succ] using Spaced.blank (m + 1)
  | text m hY hs => simpa [List.replicate_succ] using Spaced.text (m + 1) hY hs

theorem scanChunks_spaced (r : Bool) (L : List Char) :
    Spaced ((scanChunks r L).map fun c => c.text.toList) L := by
  induction L using scanChunks.induct r with
  | case1 => simpa [scanChunks.eq_1] using Spaced.blank 0
  | case2 rest ih =>
    rw [scanChunks_space]
    exact ih.cons_space
  | case3 c rest hc k n hn hnext ih =>
    -- the chunk is the front of the line; white space or nothing follows it
    rw [scanChunks_cons_of_nextChunk hc hnext]
    obtain ⟨-, hY, -, -⟩ := nextChunk_bounds hc hnext
    simpa using Spaced.text (t := (c :: rest).take n) 0 hY ih

theorem Spaced.spaceStart {ts : List (List Char)} {Y : List Char} (hs : Spaced ts Y)
    (hY : WhiteStart Y) (hts : ∀ t ∈ ts, ∃ x u, t = x :: u ∧ isWhite x = false) :
    ∀ c ∈ Y.head?, c = ' ' := by
  cases hs with
  | blank m =>
    intro c hc
    exact List.eq_of_mem_replicate (List.mem_of_mem_head? hc)
  | @text m t Y' ts' hY' hs' =>
    cases m with
    | zero =>
      -- the next text would start right away, with a character that is not white space
      obtain ⟨x, u, rfl, hx⟩ := hts t (by simp)
      have := hY x (by simp)
      rw [hx] at this
      cases this
    | succ m => simp [List.replicate_succ]

def spaceWords (cs : List Char) : List (List Char) :=
  (cs.splitOn ' ').filter fun w => !w.isEmpty

/-- A line without its leading and trailing spaces, each run of spaces inside it made one space. -/
def collapseSpaces (cs : List Char) : List Char := [' '].intercalate (spaceWords cs)

theorem spaceWords_append_space (t Y : List Char) :
    spaceWords (t ++ ' ' :: Y) = spaceWords t ++ spaceWords Y := by
  rw [spaceWords, List.splitOn_append_cons_self, List.filter_append]
  rfl

theorem spaceWords_nil : spaceWords [] = [] := rfl

theorem spaceWords_space_cons (Y : List Char) : spaceWords (' ' :: Y) = spaceWords Y := by
  simpa [spaceWords_nil] using spaceWords_append_space [] Y

theorem spaceWords_replicate_append (m : Nat) (Y : List Char) :
    spaceWords (List.replicate m ' ' ++ Y) = spaceWords Y := by
  induction m with
  | zero => rfl
  | succ m ih => rw [List.replicate_succ, List.cons_append, spaceWords_space_cons, ih]

theorem spaceWords_append_of_spaceStart (t : List Char) {Y : List Char}
    (hY : ∀ c ∈ Y.head?, c = ' ') : spaceWords (t ++ Y) = spaceWords t ++ spaceWords Y := by
  cases Y with
  | nil => simp [spaceWords_nil]
  | cons c Y =>
    obtain rfl : c = ' ' := hY c rfl
    rw [spaceWords_append_space, spaceWords_space_cons]

theorem splitOn_space_cons {x : Char} (hx : x ≠ ' ') (u : List Char) :
    ∃ q qs, u.splitOn ' ' = q :: qs ∧ (x :: u).splitOn ' ' = (x :: q) :: qs := by
  obtain ⟨q, qs, hq⟩ := List.exists_cons_of_ne_nil (List.splitOn_ne_nil ' ' u)
  refine ⟨q, qs, hq, ?_⟩
  rw [List.splitOn_cons_eq_if_modifyHead, hq]
  simp [hx]

theorem ne_nil_of_mem_tail_splitOn {u : List Char} (hsingle : ¬[' ', ' '] <:+: u)
    (hlast : ∀ x ∈ u.getLast?, x ≠ ' ') : ∀ w ∈ (u.splitOn ' ').tail, w ≠ [] := by
  induction u with
  | nil => simp
  | cons y v ih =>
    have ih := ih (fun h => hsingle (List.infix_cons h))
      (fun x hx => hlast x (List.mem_getLast?_cons hx))
    by_cases hy : y = ' '
    · -- a space: the piece after it starts with the next character
      subst hy
      cases v with
      | nil => exact absurd rfl (hlast ' ' (by simp))
      | cons z w =>
        have hz : z ≠ ' ' := fun h => hsingle (h ▸ (List.prefix_append [' ', ' '] w).isInfix)
        obtain ⟨q, qs, -, hzq⟩ := splitOn_space_cons hz w
        have hsp : (' ' :: z :: w).splitOn ' ' = [] :: (z :: q) :: qs := by
          rw [List.splitOn_cons_eq_if_modifyHead, hzq]
          simp
        rw [hzq, List.tail_cons] at ih
        rw [hsp, List.tail_cons]
        intro p hp
        rcases List.mem_cons.1 hp with rfl | hp
        · simp
        · exact ih p hp
    · obtain ⟨q, qs, hq, hyq⟩ := splitOn_space_cons hy v
      rw [hq, List.tail_cons] at ih
      rw [hyq, List.tail_cons]
      exact ih

/-- A text with no space at either end and no two spaces in a row. -/
structure SingleSpaced (t : List Char) : Prop where
  first : ∃ x u, t = x :: u ∧ x ≠ ' '
  last : ∀ x ∈ t.getLast?, x ≠ ' '
  single : ¬[' ', ' '] <:+: t

theorem SingleSpaced.spaceWords_eq {t : List Char} (h : SingleSpaced t) :
    spaceWords t = t.splitOn ' ' := by
  obtain ⟨x, u, rfl, hx⟩ := h.first
  obtain ⟨q, qs, hq, hxq⟩ := splitOn_space_cons hx u
  rw [spaceWords, List.filter_eq_self, hxq]
  intro w hw
  -- the first piece starts with the first character, the others are not empty
  rcases List.mem_cons.1 hw with rfl | hw
  · simp
  · have hne := ne_nil_of_mem_tail_splitOn (fun hi => h.single (List.infix_cons hi))
      (fun y hy => h.last y (List.mem_getLast?_cons hy))
    rw [hq, List.tail_cons] at hne
    simpa using hne w hw

theorem intercalate_append_of_ne_nil {α : Type} (sep : List α) {A B : List (List α)}
    (hA : A ≠ []) (hB : B ≠ []) :
    sep.intercalate (A ++ B) = sep.intercalate A ++ sep ++ sep.intercalate B := by
  induction A with
  | nil => exact absurd rfl hA
  | cons a A ih =>
    cases A with
    | nil =>
      rw [List.singleton_append, List.intercalate_cons_of_ne_nil hB, List.intercalate_singleton]
    | cons a' A =>
      rw [List.cons_append, List.intercalate_cons_of_ne_nil (by simp), ih (List.cons_ne_nil a' A),
        List.intercalate_cons_cons]
      simp

theorem intercalate_flatMap_splitOn (x : Char) (ts : List (List Char)) :
    [x].intercalate (ts.flatMap (·.splitOn x)) = [x].intercalate ts := by
  induction ts with
  | nil => rfl
  | cons t ts ih =>
    cases ts with
    | nil => simp
    | cons t' ts =>
      rw [List.flatMap_cons, intercalate_append_of_ne_nil _ (List.splitOn_ne_nil x t)
        (by simp [List.splitOn_ne_nil]), ih, List.intercalate_splitOn, List.intercalate_cons_cons]

theorem Spaced.spaceWords_eq {ts : List (List Char)} {L : List Char} (hs : Spaced ts L)
    (hts : ∀ t ∈ ts, SingleSpaced t ∧ ∀ x ∈ t.head?, isWhite x = false) :
    spaceWords L = ts.flatMap (·.splitOn ' ') := by
  induction hs with
  | blank m => simpa [spaceWords_nil] using spaceWords_replicate_append m []
  | @text m t Y ts hY hs ih =>
    have hstart : ∀ t' ∈ ts, ∃ x u, t' = x :: u ∧ isWhite x = false := by
      intro t' ht'
      have ht := hts t' (List.mem_cons_of_mem t ht')
      obtain ⟨x, u, rfl, -⟩ := ht.1.first
      exact ⟨x, u, rfl, ht.2 x rfl⟩
    rw [List.append_assoc, spaceWords_replicate_append,
      spaceWords_append_of_spaceStart t (hs.spaceStart hY hstart),
      (hts t (by simp)).1.spaceWords_eq, ih fun t' ht' => hts t' (by simp [ht']), List.flatMap_cons]

theorem Spaced.collapseSpaces_eq {ts : List (List Char)} {L : List Char} (hs : Spaced ts L)
    (hts : ∀ t ∈ ts, SingleSpaced t ∧ ∀ x ∈ t.head?, isWhite x = false) :
    collapseSpaces L = [' '].intercalate ts := by
  rw [collapseSpaces, hs.spaceWords_eq hts, intercalate_flatMap_splitOn]

theorem joinChunks_eq_intercalate (cs : List Chunk) :
    joinChunks cs = [' '].intercalate (cs.map fun c => c.text.toList) := by
  induction cs with
  | nil => rfl
  | cons c cs ih =>
    cases cs with
    | nil => simp [joinChunks]
    | cons d ds =>
      rw [List.map_cons, List.intercalate_cons_of_ne_nil (by simp), ← ih]
      simp [joinChunks]

/-- Without split shortcodes, a line without line feeds is its chunks' texts spaced out. -/
theorem chunkLine_spaced {mode : ShortcodeMode} (hmode : mode ≠ .split) {L : String}
    (hlf : '\n' ∉ L.toList) :
    ∃ cs, chunkLine mode L = .ok cs ∧ Spaced (cs.map fun c => c.text.toList) L.toList ∧
      (∀ c ∈ cs, (∃ x u, c.text.toList = x :: u ∧ x ≠ ' ') ∧
        ∀ x ∈ c.text.toList.getLast?, x ≠ ' ') ∧
      ((∀ c ∈ cs, (∀ x ∈ c.text.toList.head?, isWhite x = false) ∧
          ¬[' ', ' '] <:+: c.text.toList) →
        joinChunks cs = collapseSpaces L.toList) := by
  have hch : chunkLine mode L = .ok (scanChunks (mode != .disabled) L.toList) := by
    simpa using chunkLine_of_plain (.inl hmode) hlf
  have hends : ∀ c ∈ scanChunks (mode != .disabled) L.toList,
      (∃ x u, c.text.toList = x :: u ∧ x ≠ ' ') ∧ ∀ x ∈ c.text.toList.getLast?, x ≠ ' ' :=
    fun c hc => (mem_scanChunks hc).2
  refine ⟨_, hch, scanChunks_spaced _ _, hends, fun hsolid => ?_⟩
  rw [joinChunks_eq_intercalate, (scanChunks_spaced _ _).collapseSpaces_eq]
  intro t ht
  obtain ⟨c, hc, rfl⟩ := List.mem_map.1 ht
  exact ⟨⟨(hends c hc).1, (hends c hc).2, (hsolid c hc).2⟩, (hsolid c hc).1⟩

theorem chunkLine_spaced_link :
    ShortcodeMode.disabled ≠ .split ∧ '\n' ∉ "  see  [a b](c)   now ".toList ∧
      ∃ cs, chunkLine .disabled "  see  [a b](c)   now " = .ok cs ∧
        Spaced (cs.map fun c => c.text.toList) "  see  [a b](c)   now ".toList ∧
        (∀ c ∈ cs, (∃ x u, c.text.toList = x :: u ∧ x ≠ ' ') ∧
          ∀ x ∈ c.text.toList.getLast?, x ≠ ' ') ∧
        ((∀ c ∈ cs, (∀ x ∈ c.text.toList.head?, isWhite x = false) ∧
            ¬[' ', ' '] <:+: c.text.toList) →
          joinChunks cs = collapseSpaces "  see  [a b](c)   now ".toList) :=
  ⟨by decide, by decide, chunkLine_spaced (by decide) (by decide)⟩

/-- Without split shortcodes, consecutive chunks joined by single spaces chunk to the same chunks.
-/
theorem chunkLine_rechunk {mode : ShortcodeMode} (hmode : mode ≠ .split) {L : String}
    (hlf : '\n' ∉ L.toList) :
    ∃ cs, chunkLine mode L = .ok cs ∧
      ∀ seg, seg <:+: cs → chunkLine mode (" ".intercalate (seg.map Chunk.text)) = .ok seg := by
  have hch : chunkLine mode L = .ok (scanChunks (mode != .disabled) L.toList) := by
    simpa using chunkLine_of_plain (.inl hmode) hlf
  refine ⟨_, hch, fun seg hseg => ?_⟩
  have hjoin : (" ".intercalate (seg.map Chunk.text)).toList = joinChunks seg := by
    rw [String.toList_intercalate, joinChunks_eq_intercalate, List.map_map]
    rfl
  -- a line feed of the joined run would lie in one of its chunks, a piece of the line
  have hlf' : '\n' ∉ joinChunks seg := by
    intro h
    obtain ⟨ch, hch, hin⟩ :=
      infix_joinChunks (by decide) (by simp) ((List.singleton_infix_iff _ _).2 h)
    exact hlf ((mem_scanChunks (hseg.subset hch)).1.subset ((List.singleton_infix_iff _ _).1 hin))
  have hplain : chunkLine mode (String.ofList (joinChunks seg)) =
      .ok (scanChunks (mode != .disabled) (joinChunks seg)) :=
    chunkLine_of_plain (.inl hmode) hlf'
  rw [← hjoin, String.ofList_toList] at hplain
  rw [hplain, hjoin, scanChunks_joinChunks hseg]

theorem chunkLine_rechunk_shortcode :
    ShortcodeMode.atomic ≠ .split ∧
      '\n' ∉ "  see [a b](c)  `x  y`,  \x7b\x7b< z w >\x7d\x7d now".toList ∧
      ∃ cs, chunkLine .atomic "  see [a b](c)  `x  y`,  \x7b\x7b< z w >\x7d\x7d now" = .ok cs ∧
        ∀ seg, seg <:+: cs →
          chunkLine .atomic (" ".intercalate (seg.map Chunk.text)) = .ok seg :=
  ⟨by decide, by decide, chunkLine_rechunk (by decide) (by decide)⟩

theorem chunkLine_join_not_collapsed :
    chunkLine .disabled "[a  b](c)" = .ok [⟨.link, "[a  b](c)"⟩] ∧
      joinChunks [⟨.link, "[a  b](c)"⟩] ≠ collapseSpaces "[a  b](c)".toList ∧
      chunkLine .disabled "[a](b)\tc" = .ok [⟨.link, "[a](b)"⟩, ⟨.word, "\tc"⟩] ∧
      joinChunks [⟨.link, "[a](b)"⟩, ⟨.word, "\tc"⟩] ≠ collapseSpaces "[a](b)\tc".toList := by
  decide +kernel

end HtmlMarkdown
