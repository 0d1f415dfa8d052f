import Mathlib.Data.List.Chain
import HtmlMarkdown.Proofs.Chunking

namespace HtmlMarkdown

def Chunk.Solid (ch : Chunk) : Prop := ch.text.toList ≠ []

theorem joinChunks_singleton (ch : Chunk) : joinChunks [ch] = ch.text.toList := by
  simp [joinChunks]

theorem joinChunks_append {a : List Chunk} (ha : a ≠ []) (b : List Chunk) :
    joinChunks (a ++ b) = joinChunks a ++ b.flatMap fun d => ' ' :: d.text.toList := by
  obtain ⟨c, a, rfl⟩ := List.exists_cons_of_ne_nil ha
  simp [joinChunks]

theorem joinChunks_append_singleton {a : List Chunk} (ha : a ≠ []) (ch : Chunk) :
    joinChunks (a ++ [ch]) = joinChunks a ++ ' ' :: ch.text.toList := by
  simp [joinChunks_append ha]

theorem joinChunks_eq_nil {cs : List Chunk} (h : ∀ ch ∈ cs, ch.Solid) :
    joinChunks cs = [] ↔ cs = [] := by
  cases cs with
  | nil => simp [joinChunks]
  | cons c cs =>
    simp only [joinChunks, reduceCtorEq, iff_false]
    exact fun he => h c List.mem_cons_self (List.append_eq_nil_iff.1 he).1

theorem length_joinChunks_le_append {a : List Chunk} (ha : a ≠ []) (b : List Chunk) :
    (joinChunks a).length ≤ (joinChunks (a ++ b)).length := by
  rw [joinChunks_append ha]
  simp

theorem mem_joinChunks {cs : List Chunk} {x : Char} (h : x ∈ joinChunks cs) :
    x = ' ' ∨ ∃ ch ∈ cs, x ∈ ch.text.toList := by
  cases cs with
  | nil => simp [joinChunks] at h
  | cons c cs =>
    simp only [joinChunks, List.mem_append, List.mem_flatMap, List.mem_cons] at h
    rcases h with h | ⟨d, hd, rfl | h⟩
    · exact .inr ⟨c, List.mem_cons_self, h⟩
    · exact .inl rfl
    · exact .inr ⟨d, List.mem_cons_of_mem c hd, h⟩

def Filling.ofGroups (gs : List (List Chunk)) (cur : List Chunk) : Filling :=
  ⟨gs.map fun g => String.ofList (joinChunks g), String.ofList (joinChunks cur),
    (joinChunks cur).length⟩

/-- A group that filling may lay on one line: a single chunk, or chunks that fit the room joined. -/
def FitsRoom (room : Nat) (g : List Chunk) : Prop :=
  g.length ≤ 1 ∨ (joinChunks g).length ≤ room

theorem Filling.place_of_break {room : Nat} {st : Filling} {ch : Chunk} (hpos : 0 < st.width)
    (hbreak : room < st.width + 1 + ch.width) :
    st.place room ch = ⟨st.done ++ [st.current], "" ++ ch.text, 0 + ch.width⟩ := by
  simp [Filling.place, hpos, hbreak]

theorem Filling.place_of_fit {room : Nat} {st : Filling} {ch : Chunk} (hpos : 0 < st.width)
    (hfit : ¬room < st.width + 1 + ch.width) :
    st.place room ch = ⟨st.done, st.current ++ " " ++ ch.text, st.width + 1 + ch.width⟩ := by
  simp [Filling.place, hpos, hfit]

theorem Filling.place_of_empty {room : Nat} {st : Filling} {ch : Chunk} (hzero : st.width = 0) :
    st.place room ch = ⟨st.done, st.current ++ ch.text, st.width + ch.width⟩ := by
  simp [Filling.place, hzero]

theorem Filling.place_ofGroups (room : Nat) (gs : List (List Chunk)) {cur : List Chunk}
    {ch : Chunk} (hcur : ∀ d ∈ cur, d.Solid) :
    Filling.place room (Filling.ofGroups gs cur) ch =
      if cur ≠ [] ∧ room < (joinChunks cur).length + 1 + ch.width then
        Filling.ofGroups (gs ++ [cur]) [ch]
      else Filling.ofGroups gs (cur ++ [ch]) := by
  have hwidth : ch.width = ch.text.toList.length := String.length_toList.symm
  by_cases hc : cur = []
  · subst hc
    rw [Filling.place_of_empty (by simp [Filling.ofGroups, joinChunks])]
    simp [Filling.ofGroups, joinChunks, hwidth]
  · have hpos : 0 < (Filling.ofGroups gs cur).width := by
      rw [Filling.ofGroups, List.length_pos_iff]
      exact fun h => hc ((joinChunks_eq_nil hcur).1 h)
    by_cases hfit : room < (joinChunks cur).length + 1 + ch.width
    · rw [Filling.place_of_break hpos hfit, if_pos ⟨hc, hfit⟩]
      simp [Filling.ofGroups, joinChunks_singleton, hwidth]
    · rw [Filling.place_of_fit hpos hfit, if_neg (fun h => hfit h.2)]
      simp [Filling.ofGroups, joinChunks_append_singleton hc, hwidth, ← String.toList_inj]
      omega

/-- Consecutive groups where the first cannot take the first chunk of the second. -/
def Breaks (room : Nat) (g h : List Chunk) : Prop :=
  ∀ c ∈ h.head?, room < (joinChunks g).length + 1 + c.width

/-- A greedy layout into lines: no group empty, each single or fitting, none taking the next chunk.
-/
structure Greedy (room : Nat) (gs : List (List Chunk)) : Prop where
  nonempty : ∀ g ∈ gs, g ≠ []
  fits : ∀ g ∈ gs, FitsRoom room g
  full : gs.IsChain (Breaks room)

theorem FitsRoom.append_singleton {room : Nat} {cur : List Chunk} {ch : Chunk}
    (hcur : FitsRoom room cur)
    (hsame : ¬(cur ≠ [] ∧ room < (joinChunks cur).length + 1 + ch.width)) :
    FitsRoom room (cur ++ [ch]) := by
  by_cases hc : cur = []
  · subst hc
    simp [FitsRoom]
  · right
    rw [joinChunks_append_singleton hc]
    have hwidth : ch.width = ch.text.toList.length := String.length_toList.symm
    simp only [List.length_append, List.length_cons]
    have := not_and.1 hsame hc
    omega

theorem FitsRoom.not_break {room : Nat} {cur rest : List Chunk} {ch : Chunk}
    (hfit : FitsRoom room (cur ++ ch :: rest)) :
    ¬(cur ≠ [] ∧ room < (joinChunks cur).length + 1 + ch.width) := by
  rintro ⟨hc, hlt⟩
  rcases hfit with hlen | hle
  · simp only [List.length_append, List.length_cons] at hlen
    exact hc (List.length_eq_zero_iff.1 (by omega))
  · have hmono := length_joinChunks_le_append (a := cur ++ [ch]) (by simp) rest
    rw [joinChunks_append_singleton hc] at hmono
    have hwidth : ch.width = ch.text.toList.length := String.length_toList.symm
    simp only [List.append_assoc, List.singleton_append, List.length_append,
      List.length_cons] at hmono
    omega

theorem Greedy.append_break {room : Nat} {gs : List (List Chunk)} {cur : List Chunk} {ch : Chunk}
    (hg : Greedy room (gs ++ [cur])) (hbreak : room < (joinChunks cur).length + 1 + ch.width) :
    Greedy room (gs ++ [cur] ++ [[ch]]) := by
  refine ⟨fun g hg' => ?_, fun g hg' => ?_, hg.full.append (List.isChain_singleton _) ?_⟩
  · rcases List.mem_append.1 hg' with hg' | hg'
    · exact hg.nonempty g hg'
    · rw [List.mem_singleton.1 hg']
      simp
  · rcases List.mem_append.1 hg' with hg' | hg'
    · exact hg.fits g hg'
    · rw [List.mem_singleton.1 hg']
      simp [FitsRoom]
  · simpa [Breaks] using hbreak

theorem Greedy.append_fit {room : Nat} {gs : List (List Chunk)} {cur : List Chunk} {ch : Chunk}
    (hg : Greedy room (gs ++ [cur]))
    (hsame : ¬(cur ≠ [] ∧ room < (joinChunks cur).length + 1 + ch.width)) :
    Greedy room (gs ++ [cur ++ [ch]]) := by
  have hcur : cur ≠ [] := hg.nonempty cur (by simp)
  refine ⟨fun g hg' => ?_, fun g hg' => ?_, ?_⟩
  · rcases List.mem_append.1 hg' with hg' | hg'
    · exact hg.nonempty g (List.mem_append_left _ hg')
    · rw [List.mem_singleton.1 hg']
      simp
  · rcases List.mem_append.1 hg' with hg' | hg'
    · exact hg.fits g (List.mem_append_left _ hg')
    · rw [List.mem_singleton.1 hg']
      exact (hg.fits cur (by simp)).append_singleton hsame
  · obtain ⟨hgs, -, hlast⟩ := List.isChain_append.1 hg.full
    refine hgs.append (List.isChain_singleton _) fun x hx y hy c hc => ?_
    obtain rfl : cur ++ [ch] = y := by simpa using hy
    rw [List.head?_append_of_ne_nil _ hcur] at hc
    exact hlast x hx cur (by simp) c hc

/-- What filling keeps true: the chunks placed so far are laid out greedily. -/
def FillInv (room : Nat) (placed : List Chunk) (st : Filling) : Prop :=
  ∃ gs cur, st = Filling.ofGroups gs cur ∧ (gs ++ [cur]).flatten = placed ∧
    Greedy room (gs ++ [cur])

theorem Filling.start_eq_ofGroups : (⟨[], "", 0⟩ : Filling) = Filling.ofGroups [] [] := by
  simp [Filling.ofGroups, joinChunks]

theorem fillInv_first (room : Nat) (ch : Chunk) :
    FillInv room [ch] ((⟨[], "", 0⟩ : Filling).place room ch) := by
  refine ⟨[], [ch], ?_, by simp, ⟨by simp, by simp [FitsRoom], List.isChain_singleton _⟩⟩
  rw [Filling.start_eq_ofGroups, Filling.place_ofGroups room [] (by simp)]
  simp

theorem fillInv_place {room : Nat} {placed : List Chunk} {st : Filling} {ch : Chunk}
    (hsolid : ∀ d ∈ placed, d.Solid) (hinv : FillInv room placed st) :
    FillInv room (placed ++ [ch]) (st.place room ch) := by
  obtain ⟨gs, cur, rfl, hflat, hg⟩ := hinv
  have hcs : ∀ d ∈ cur, d.Solid := fun d hd =>
    hsolid d (by rw [← hflat]; exact List.mem_flatten.2 ⟨cur, by simp, hd⟩)
  rw [Filling.place_ofGroups room gs hcs]
  split
  · next hnew =>
    -- the current group is finished and the chunk starts the next one
    exact ⟨gs ++ [cur], [ch], rfl, by simp [← hflat], hg.append_break hnew.2⟩
  · next hsame =>
    -- the chunk joins the current group
    exact ⟨gs, cur ++ [ch], rfl, by simp [← hflat], hg.append_fit hsame⟩

theorem fillInv_foldl {room : Nat} {placed chunks : List Chunk} {st : Filling}
    (hsolid : ∀ d ∈ placed ++ chunks, d.Solid) (hinv : FillInv room placed st) :
    FillInv room (placed ++ chunks) (chunks.foldl (Filling.place room) st) := by
  induction chunks generalizing placed st with
  | nil => simpa using hinv
  | cons ch chunks ih =>
    rw [List.foldl_cons, ← List.singleton_append, ← List.append_assoc]
    apply ih (by simpa using hsolid)
    exact fillInv_place (fun d hd => hsolid d (List.mem_append_left _ hd)) hinv

/-- First-fit filling lays the chunks out greedily, each group on a line of its own. -/
theorem fillLines_greedy (room : Nat) {chunks : List Chunk} (hsolid : ∀ d ∈ chunks, d.Solid)
    (hne : chunks ≠ []) :
    ∃ gs : List (List Chunk), gs.flatten = chunks ∧ Greedy room gs ∧
      fillLines room chunks = gs.map fun g => String.ofList (joinChunks g) := by
  obtain ⟨ch, rest, rfl⟩ := List.exists_cons_of_ne_nil hne
  have hfold : FillInv room ([ch] ++ rest)
      (rest.foldl (Filling.place room) ((⟨[], "", 0⟩ : Filling).place room ch)) :=
    fillInv_foldl (by simpa using hsolid) (fillInv_first room ch)
  obtain ⟨gs, cur, hst, hflat, hg⟩ := hfold
  have hcne : cur ≠ [] := hg.nonempty cur (by simp)
  have hcs : ∀ d ∈ cur, d.Solid := fun d hd =>
    hsolid d (by rw [← List.singleton_append, ← hflat]; exact List.mem_flatten.2 ⟨cur, by simp, hd⟩)
  refine ⟨gs ++ [cur], by simpa using hflat, hg, ?_⟩
  have hcur' : String.ofList (joinChunks cur) ≠ "" := by
    rw [ne_eq, ← String.toList_inj, String.toList_ofList]
    exact fun h => hcne ((joinChunks_eq_nil hcs).1 h)
  unfold fillLines
  rw [List.foldl_cons, hst]
  simp [Filling.ofGroups, hcur']

theorem foldl_place_of_fits {room : Nat} {gs : List (List Chunk)} {cur rest : List Chunk}
    (hsolid : ∀ d ∈ cur ++ rest, d.Solid) (hfit : FitsRoom room (cur ++ rest)) :
    rest.foldl (Filling.place room) (Filling.ofGroups gs cur) =
      Filling.ofGroups gs (cur ++ rest) := by
  induction rest generalizing cur with
  | nil => simp
  | cons ch rest ih =>
    have hcs : ∀ d ∈ cur, d.Solid := fun d hd => hsolid d (List.mem_append_left _ hd)
    -- the chunk never starts a new line: the group is one chunk, or all of it fits
    have hsame := FitsRoom.not_break hfit
    rw [List.foldl_cons, Filling.place_ofGroups room gs hcs, if_neg hsame]
    have := @ih (cur ++ [ch]) (by simpa using hsolid) (by simpa using hfit)
    simpa using this

theorem fillLines_of_fits {room : Nat} {g : List Chunk} (hsolid : ∀ d ∈ g, d.Solid)
    (hfit : FitsRoom room g) : fillLines room g = [String.ofList (joinChunks g)] := by
  have hst := @foldl_place_of_fits room [] [] g (by simpa using hsolid)
    (by simpa using hfit)
  simp only [List.nil_append] at hst
  unfold fillLines
  rw [Filling.start_eq_ofGroups, hst]
  simp [Filling.ofGroups]

section Parts

variable {I C Tr : List Char}

/-- A line read as its indent, its content and its trailing spaces. -/
structure LineParts (I C Tr : List Char) : Prop where
  indent : ∀ c ∈ I, c = ' '
  trailing : ∀ c ∈ Tr, c = ' '
  first : ∃ c t, C = c :: t ∧ c ≠ ' '
  last : ∀ c ∈ C.getLast?, c ≠ ' '

theorem LineParts.takeWhile_eq (hp : LineParts I C Tr) :
    (I ++ C ++ Tr).takeWhile (· == ' ') = I := by
  obtain ⟨c, t, rfl, hc⟩ := hp.first
  rw [List.append_assoc, List.takeWhile_append_of_pos (by simpa using hp.indent)]
  simp [hc]

theorem LineParts.dropWhile_eq (hp : LineParts I C Tr) :
    (I ++ C ++ Tr).dropWhile (· == ' ') = C ++ Tr := by
  obtain ⟨c, t, rfl, hc⟩ := hp.first
  rw [List.append_assoc, List.dropWhile_append_of_pos (by simpa using hp.indent)]
  simp [hc]

theorem LineParts.dropEndBy_eq (hp : LineParts I C Tr) : dropEndBy (· == ' ') (C ++ Tr) = C := by
  unfold dropEndBy
  rw [List.reverse_append, List.dropWhile_append_of_pos (by simpa using hp.trailing)]
  -- the content's last character is kept
  cases hr : C.reverse with
  | nil => simp_all
  | cons d r =>
    have hd : d ≠ ' ' := hp.last d (by rw [← List.head?_reverse, hr]; rfl)
    rw [List.dropWhile_cons_of_neg (by simpa using hd), ← hr, List.reverse_reverse]

theorem exists_lineParts {cs : List Char} (h : ∃ c ∈ cs, c ≠ ' ') :
    ∃ I C Tr, cs = I ++ C ++ Tr ∧ LineParts I C Tr := by
  obtain ⟨x, hx, hxs⟩ := h
  set B := cs.dropWhile (· == ' ')
  have hcs : cs = cs.takeWhile (· == ' ') ++ B := (List.takeWhile_append_dropWhile).symm
  have hB : B.reverse = B.reverse.takeWhile (· == ' ') ++ B.reverse.dropWhile (· == ' ') :=
    (List.takeWhile_append_dropWhile).symm
  set C := (B.reverse.dropWhile (· == ' ')).reverse
  set Tr := (B.reverse.takeWhile (· == ' ')).reverse
  have hBC : B = C ++ Tr := by
    have := congrArg List.reverse hB
    rw [List.reverse_reverse, List.reverse_append] at this
    exact this
  -- the content holds the character that is not a space
  have hxB : x ∈ B := by
    rcases List.mem_append.1 (hcs ▸ hx) with h | h
    · exact absurd (by simpa using List.mem_takeWhile_imp h) hxs
    · exact h
  have hCne : C ≠ [] := by
    intro hC
    have hxT : x ∈ Tr := by
      rw [hBC, hC, List.nil_append] at hxB
      exact hxB
    exact hxs (by simpa using List.mem_takeWhile_imp (List.mem_reverse.1 hxT))
  obtain ⟨c, t, hct⟩ := List.exists_cons_of_ne_nil hCne
  refine ⟨cs.takeWhile (· == ' '), C, Tr, by rw [List.append_assoc, ← hBC]; exact hcs,
    ⟨fun c hc => by simpa using List.mem_takeWhile_imp hc,
     fun c hc => by simpa using List.mem_takeWhile_imp (List.mem_reverse.1 hc),
     ⟨c, t, hct, ?_⟩, ?_⟩⟩
  · -- the first character of the content is the first one after the indent
    have hhead : B.head? = some c := by rw [hBC, hct]; rfl
    have := List.head?_dropWhile_not (· == ' ') cs
    rw [hhead] at this
    simpa using this
  · intro d hd
    rw [List.getLast?_reverse] at hd
    have := List.head?_dropWhile_not (· == ' ') B.reverse
    rw [Option.mem_def.1 hd] at this
    simpa using this

end Parts

def PlainFor (mode : ShortcodeMode) (cs : List Char) : Prop :=
  mode ≠ .split ∨ ¬['{', '{', '<'] <:+: cs

theorem PlainFor.mono {mode : ShortcodeMode} {cs ds : List Char} (h : PlainFor mode cs)
    (hsub : ds <:+: cs) : PlainFor mode ds :=
  h.imp_right fun hno hds => hno (hds.trans hsub)

theorem splitShortcodes_of_kind {cs : List Chunk} (h : ∀ ch ∈ cs, ch.kind ≠ .shortcode) :
    splitShortcodes cs = .ok cs := by
  induction cs with
  | nil => rfl
  | cons c cs ih =>
    rw [splitShortcodes, if_neg (h c List.mem_cons_self),
      ih fun d hd => h d (List.mem_cons_of_mem c hd)]
    rfl

theorem chunkLine_of_plain {mode : ShortcodeMode} {cs : List Char} (hplain : PlainFor mode cs)
    (hlf : '\n' ∉ cs) :
    chunkLine mode (String.ofList cs) = .ok (scanChunks (mode != .disabled) cs) := by
  by_cases hsplit : mode = .split
  · subst hsplit
    have hno := hplain.resolve_left (not_not.2 rfl)
    simp only [chunkLine, String.toList_ofList, if_pos]
    simp [hlf, splitShortcodes_of_kind fun ch hch => kind_ne_shortcode hno hch]
  · simp [chunkLine, hlf, hsplit]

theorem infix_joinChunks {pat : List Char} (hsp : ' ' ∉ pat) (hne : pat ≠ [])
    {g : List Chunk} (h : pat <:+: joinChunks g) : ∃ ch ∈ g, pat <:+: ch.text.toList := by
  induction g with
  | nil => exact absurd (List.eq_nil_of_infix_nil h) hne
  | cons c cs ih =>
    have hhead : ∀ x ∈ (cs.flatMap fun d => ' ' :: d.text.toList).head?, x ∉ pat.tail := by
      intro x hx hm
      cases cs with
      | nil => simp at hx
      | cons d ds =>
        simp only [List.flatMap_cons, List.cons_append, List.head?_cons, Option.mem_def,
          Option.some.injEq] at hx
        exact hsp (hx ▸ List.mem_of_mem_tail hm)
    rcases infix_append_of_head hhead h with h | h
    · exact ⟨c, List.mem_cons_self, h⟩
    · cases cs with
      | nil => exact absurd (List.eq_nil_of_infix_nil h) hne
      | cons d ds =>
        rw [List.flatMap_cons, List.cons_append] at h
        rcases List.infix_cons_iff.1 h with h | h
        · obtain ⟨p, ps, rfl⟩ := List.exists_cons_of_ne_nil hne
          exact absurd (List.cons_prefix_cons.1 h).1 (fun e => hsp (e ▸ List.mem_cons_self))
        · obtain ⟨ch, hch, hin⟩ := ih h
          exact ⟨ch, List.mem_cons_of_mem c hch, hin⟩

theorem PlainFor.joinChunks {mode : ShortcodeMode} {r : Bool} {C : List Char} {g : List Chunk}
    (h : PlainFor mode C) (hg : g <:+: scanChunks r C) : PlainFor mode (joinChunks g) := by
  refine h.imp_right fun hno hj => ?_
  obtain ⟨ch, hch, hin⟩ := infix_joinChunks (by decide) (by simp) hj
  exact hno (hin.trans (mem_scanChunks (hg.subset hch)).1)

theorem wrapLine_of_fits (mode : ShortcodeMode) {width : Nat} {cs : List Char} (hlf : '\n' ∉ cs)
    (h : cs.length ≤ width) : wrapLine mode width (String.ofList cs) = .ok (String.ofList cs) := by
  simp [wrapLine, hlf, h]

theorem wrapLine_of_blank (mode : ShortcodeMode) (width : Nat) {cs : List Char}
    (hsp : ∀ c ∈ cs, c = ' ') : wrapLine mode width (String.ofList cs) = .ok (String.ofList cs) := by
  have hlf : '\n' ∉ cs := fun h => absurd (hsp _ h) (by decide)
  by_cases h : cs.length ≤ width
  · exact wrapLine_of_fits mode hlf h
  · have htake : cs.takeWhile (· == ' ') = cs := List.takeWhile_eq_self_iff.2 (by simpa using hsp)
    have hdrop : cs.dropWhile (· == ' ') = [] := List.dropWhile_eq_nil_iff.2 (by simpa using hsp)
    have hchunks : chunkLine mode (String.ofList []) = .ok [] := by
      cases mode <;> simp [chunkLine, scanChunks.eq_1, splitShortcodes]
    simp only [wrapLine, String.toList_ofList, htake, hdrop]
    simp [hlf, h, dropEndBy, hchunks, fillLines]

theorem wrapLine_eq_map_fill {mode : ShortcodeMode} {width : Nat} {I C Tr : List Char}
    (hp : LineParts I C Tr) (hlf : '\n' ∉ C) (hlong : width < (I ++ C ++ Tr).length) :
    wrapLine mode width (String.ofList (I ++ C ++ Tr)) =
      (chunkLine mode (String.ofList C)).map fun chunks => String.ofList (['\n'].intercalate
        ((fillLines (max 1 (width - I.length)) chunks).map fun s => I ++ s.toList) ++ Tr) := by
  have hlf' : '\n' ∉ I ++ C ++ Tr := by
    intro h
    rcases List.mem_append.1 h with h | h
    · rcases List.mem_append.1 h with h | h
      · exact absurd (hp.indent _ h) (by decide)
      · exact hlf h
    · exact absurd (hp.trailing _ h) (by decide)
  simp only [wrapLine, String.toList_ofList, hp.takeWhile_eq, hp.dropWhile_eq, hp.dropEndBy_eq,
    List.drop_left]
  rw [if_neg (by simpa using hlf'), if_neg (Nat.not_le.2 hlong)]
  cases chunkLine mode (String.ofList C) with
  | error e => rfl
  | ok chunks =>
    show Except.ok _ = Except.ok _
    congr 1
    rw [← String.toList_inj]
    simp [Function.comp_def]

theorem wrapLine_eq_fill {mode : ShortcodeMode} {width : Nat} {I C Tr : List Char}
    (hplain : PlainFor mode C) (hp : LineParts I C Tr) (hlf : '\n' ∉ C)
    (hlong : width < (I ++ C ++ Tr).length) :
    wrapLine mode width (String.ofList (I ++ C ++ Tr)) =
      .ok (String.ofList (['\n'].intercalate
        ((fillLines (max 1 (width - I.length)) (scanChunks (mode != .disabled) C)).map
          fun s => I ++ s.toList) ++ Tr)) := by
  rw [wrapLine_eq_map_fill hp hlf hlong, chunkLine_of_plain hplain hlf]
  rfl

section MapLast

variable {α : Type}

theorem mapLast_ne_nil (f : α → α) {xs : List α} (h : xs ≠ []) : mapLast f xs ≠ [] := by
  match xs, h with
  | [_], _ => simp [mapLast]
  | _ :: _ :: _, _ => simp [mapLast]

theorem append_intercalate_mapLast (sep T : List α) {xs : List (List α)} (h : xs ≠ []) :
    sep.intercalate xs ++ T = sep.intercalate (mapLast (· ++ T) xs) := by
  induction xs with
  | nil => exact absurd rfl h
  | cons x xs ih =>
    cases xs with
    | nil => simp [mapLast]
    | cons y ys =>
      have hne := mapLast_ne_nil (· ++ T) (List.cons_ne_nil y ys)
      rw [mapLast, List.intercalate_cons_cons, List.intercalate_cons_of_ne_nil hne,
        List.append_assoc, ih (List.cons_ne_nil y ys)]

theorem mem_mapLast {f : α → α} {xs : List α} {x : α} (h : x ∈ mapLast f xs) :
    ∃ y ∈ xs, x = y ∨ x = f y := by
  induction xs with
  | nil => simp [mapLast] at h
  | cons y ys ih =>
    cases ys with
    | nil =>
      simp only [mapLast, List.mem_singleton] at h
      exact ⟨y, List.mem_cons_self, .inr h⟩
    | cons z zs =>
      rw [mapLast, List.mem_cons] at h
      rcases h with rfl | h
      · exact ⟨x, List.mem_cons_self, .inl rfl⟩
      · obtain ⟨w, hw, hx⟩ := ih h
        exact ⟨w, List.mem_cons_of_mem y hw, hx⟩

end MapLast

/-- The lines of a wrapped long line: each group of chunks after the indent. -/
theorem wrapLine_eq_groups {mode : ShortcodeMode} {width : Nat} {I C Tr : List Char}
    (hplain : PlainFor mode C) (hp : LineParts I C Tr) (hlf : '\n' ∉ C)
    (hlong : width < (I ++ C ++ Tr).length) :
    ∃ gs : List (List Chunk), gs.flatten = scanChunks (mode != .disabled) C ∧
      (∀ g ∈ gs, g ≠ [] ∧ FitsRoom (max 1 (width - I.length)) g) ∧
      wrapLine mode width (String.ofList (I ++ C ++ Tr)) =
        .ok (String.ofList (['\n'].intercalate
          (mapLast (· ++ Tr) (gs.map fun g => I ++ joinChunks g)))) := by
  obtain ⟨c, t, hct, hc⟩ := hp.first
  have hsolid : ∀ d ∈ scanChunks (mode != .disabled) C, d.Solid := by
    intro d hd
    obtain ⟨-, ⟨e, u, he, -⟩, -⟩ := mem_scanChunks hd
    simp [Chunk.Solid, he]
  have hne : scanChunks (mode != .disabled) C ≠ [] := scanChunks_ne_nil ⟨c, by simp [hct], hc⟩
  obtain ⟨gs, hflat, hgs, hfill⟩ := fillLines_greedy (max 1 (width - I.length)) hsolid hne
  refine ⟨gs, hflat, fun g hg => ⟨hgs.nonempty g hg, hgs.fits g hg⟩, ?_⟩
  have hgs0 : gs ≠ [] := by
    rintro rfl
    exact hne hflat.symm
  rw [wrapLine_eq_fill hplain hp hlf hlong, hfill, List.map_map,
    append_intercalate_mapLast _ _ (by simpa using hgs0)]
  simp [Function.comp_def]

theorem splitOn_wrapped_groups {I C Tr : List Char} (hp : LineParts I C Tr) (hlfC : '\n' ∉ C)
    {r : Bool} {gs : List (List Chunk)} (hflat : gs.flatten = scanChunks r C) :
    (['\n'].intercalate (mapLast (· ++ Tr) (gs.map fun g => I ++ joinChunks g))).splitOn '\n' =
      mapLast (· ++ Tr) (gs.map fun g => I ++ joinChunks g) := by
  apply List.splitOn_intercalate
  · intro x hx hm
    obtain ⟨y, hy, hxy⟩ := mem_mapLast hx
    obtain ⟨g, hg, rfl⟩ := List.mem_map.1 hy
    have hm' : '\n' ∈ I ∨ '\n' ∈ joinChunks g ∨ '\n' ∈ Tr := by
      rcases hxy with rfl | rfl <;> simp only [List.mem_append] at hm <;> tauto
    rcases hm' with hm | hm | hm
    · exact absurd (hp.indent _ hm) (by decide)
    · rcases mem_joinChunks hm with h | ⟨d, hd, h⟩
      · cases h
      · have hd' : d ∈ scanChunks r C := hflat ▸ List.mem_flatten_of_mem hg hd
        exact hlfC ((mem_scanChunks hd').1.subset h)
    · exact absurd (hp.trailing _ hm) (by decide)
  · apply mapLast_ne_nil
    rw [Ne, List.map_eq_nil_iff]
    rintro rfl
    obtain ⟨c, t, hct, hc⟩ := hp.first
    exact scanChunks_ne_nil (r := r) ⟨c, by simp [hct], hc⟩ hflat.symm

end HtmlMarkdown
