import HtmlMarkdown.Proofs.FirstFit

namespace HtmlMarkdown

/-- Text that neither starts nor ends with a space. -/
def NoEdgeSpace (t : List Char) : Prop := t.head? ≠ some ' ' ∧ t.getLast? ≠ some ' '

theorem NoEdgeSpace.of_forall {t : List Char} (h : ∀ x ∈ t, x ≠ ' ') : NoEdgeSpace t :=
  ⟨fun hh => h ' ' (List.mem_of_mem_head? hh) rfl,
    fun hl => h ' ' (List.mem_of_getLast? hl) rfl⟩

theorem NoEdgeSpace.append {a b : List Char} (ha : NoEdgeSpace a) (hb : NoEdgeSpace b) :
    NoEdgeSpace (a ++ b) := by
  constructor
  · rw [List.head?_append]
    cases h : a.head? with
    | none => exact hb.1
    | some x => simpa [h] using ha.1
  · rw [List.getLast?_append]
    cases h : b.getLast? with
    | none => exact ha.2
    | some x => simpa [h] using hb.2

theorem NoEdgeSpace.prepend {p t : List Char} (hp : p.head? ≠ some ' ') (ht : NoEdgeSpace t)
    (hne : t ≠ []) : NoEdgeSpace (p ++ t) := by
  refine ⟨?_, by rw [List.getLast?_append_of_ne_nil _ hne]; exact ht.2⟩
  rw [List.head?_append]
  cases h : p.head? with
  | none => exact ht.1
  | some x => simpa [h] using hp

theorem NoEdgeSpace.append_suffix {t s : List Char} (ht : NoEdgeSpace t) (hne : t ≠ [])
    (hs : s.getLast? ≠ some ' ') : NoEdgeSpace (t ++ s) := by
  refine ⟨by rw [List.head?_append_of_ne_nil _ hne]; exact ht.1, ?_⟩
  rw [List.getLast?_append]
  cases h : s.getLast? with
  | none => exact ht.2
  | some x => simpa [h] using hs

theorem NoEdgeSpace.join {a b : List Char} (m : List Char) (ha : NoEdgeSpace a) (hane : a ≠ [])
    (hb : NoEdgeSpace b) (hbne : b ≠ []) : NoEdgeSpace (a ++ (m ++ b)) :=
  ⟨by rw [List.head?_append_of_ne_nil _ hane]; exact ha.1,
    by rw [← List.append_assoc, List.getLast?_append_of_ne_nil _ hbne]; exact hb.2⟩

theorem solidChars_append (a b : List Char) : solidChars (a ++ b) = solidChars a ++ solidChars b :=
  List.filter_append a b

theorem quotedLength?_closes {q : Char} {cs : List Char} {n : Nat}
    (h : quotedLength? q cs = some n) : 0 < n ∧ cs[n - 1]? = some q := by
  fun_induction quotedLength? q cs generalizing n with
  | case1 => cases h
  | case2 rest =>
    cases h
    simp
  | case3 => cases h
  | case4 => cases h
  | case5 d rest hd hq ih =>
    -- an escaped character is skipped with its backslash
    obtain ⟨m, hm, rfl⟩ := Option.map_eq_some_iff.1 h
    obtain ⟨hpos, hget⟩ := ih hm
    refine ⟨by omega, ?_⟩
    rw [show m + 2 - 1 = (m - 1) + 1 + 1 by omega]
    simpa using hget
  | case6 d rest hq hb ih =>
    obtain ⟨m, hm, rfl⟩ := Option.map_eq_some_iff.1 h
    obtain ⟨hpos, hget⟩ := ih hm
    refine ⟨by omega, ?_⟩
    rw [show m + 1 - 1 = (m - 1) + 1 by omega]
    simpa using hget

theorem noEdgeSpace_of_mem_shortcodeTokens {cs t : List Char} (h : t ∈ shortcodeTokens cs) :
    NoEdgeSpace t := by
  induction cs using shortcodeTokens.induct with
  | case1 => simp [shortcodeTokens.eq_def] at h
  | case2 d rest hd ih =>
    rw [shortcodeTokens.eq_def] at h
    simp only [hd, ↓reduceIte, List.mem_cons] at h
    rcases h with rfl | h
    · -- a bare token holds no white space
      refine NoEdgeSpace.of_forall fun x hx hsp => ?_
      have hbare : isBareChar x = true := by
        rcases List.mem_cons.1 hx with rfl | hx
        · exact hd
        · exact List.mem_takeWhile_imp hx
      subst hsp
      simp [isBareChar, isWhite_space] at hbare
    · exact ih h
  | case3 d rest hd hq n hn ih =>
    rw [shortcodeTokens.eq_def] at h
    simp only [hd, hq, hn, Bool.false_eq_true, ↓reduceIte, List.mem_cons] at h
    rcases h with rfl | h
    · -- a quoted token starts and ends with its quote
      have hquote : d ≠ ' ' := by
        simp only [Bool.or_eq_true, decide_eq_true_eq] at hq
        rcases hq with rfl | rfl <;> decide
      obtain ⟨hpos, hclose⟩ := quotedLength?_closes hn
      have hlast : (rest.take n).getLast? = some d := by
        rw [List.getLast?_take, if_neg (by omega), hclose, Option.some_or]
      refine ⟨by simpa using hquote, ?_⟩
      rw [List.getLast?_cons, hlast]
      simpa using hquote
    · exact ih h
  | case4 d rest hd hq hn ih =>
    rw [shortcodeTokens.eq_def] at h
    simp only [hd, hq, hn, ↓reduceIte] at h
    exact ih h
  | case5 d rest hd hq ih =>
    rw [shortcodeTokens.eq_def] at h
    simp only [hd, hq] at h
    exact ih h

theorem flatten_glueAssignments (ts : List (List Char)) :
    (glueAssignments ts).flatten = ts.flatten := by
  induction ts using glueAssignments.induct with
  | case1 u v w rest heq ih =>
    rw [glueAssignments, if_pos heq, List.flatten_cons, ih]
    simp
  | case2 u v w rest hne ih => rw [glueAssignments, if_neg hne, List.flatten_cons, ih]; rfl
  | case3 ts hshort => rw [glueAssignments_short hshort]

theorem closeTokens_content {ts ts' : List (List Char)} (h : closeTokens ts = some ts')
    (hts : ∀ t ∈ ts, t ≠ [] ∧ NoEdgeSpace t) :
    (∀ t ∈ ts', t ≠ [] ∧ NoEdgeSpace t) ∧
      solidChars ts'.flatten = solidChars ts.flatten := by
  unfold closeTokens at h
  split at h
  · next close last first before hrev =>
    cases h
    have hts' : ts = before.reverse ++ [first] ++ [last] ++ [close] := by
      rw [List.reverse_eq_cons_iff] at hrev
      simp [hrev]
    have hlast := hts last (by simp [hts'])
    have hclose := hts close (by simp [hts'])
    refine ⟨fun t ht => ?_, ?_⟩
    · rw [List.mem_reverse, List.mem_cons] at ht
      rcases ht with rfl | ht
      · exact ⟨by simp, NoEdgeSpace.join [' '] hlast.2 hlast.1 hclose.2 hclose.1⟩
      · exact hts t (by rw [← List.mem_reverse, hrev]; simp [ht])
    · rw [hts']
      simp [solidChars, List.filter_append, isWhite_space]
  · cases h

theorem mem_modifyHead_append {p y : List Char} {ts : List (List Char)}
    (hy : y ∈ ts.modifyHead (p ++ ·)) : ∃ x ∈ ts, y = x ∨ y = p ++ x := by
  cases ts with
  | nil => simp at hy
  | cons x xs =>
    rw [List.modifyHead_cons, List.mem_cons] at hy
    rcases hy with rfl | hy
    · exact ⟨x, List.mem_cons_self, .inr rfl⟩
    · exact ⟨y, List.mem_cons_of_mem x hy, .inl rfl⟩

theorem flatten_modifyHead_append (p : List Char) {ts : List (List Char)} (h : ts ≠ []) :
    (ts.modifyHead (p ++ ·)).flatten = p ++ ts.flatten := by
  obtain ⟨t, ts, rfl⟩ := List.exists_cons_of_ne_nil h
  simp [List.modifyHead_cons]

theorem flatten_mapLast_append (s : List Char) {ts : List (List Char)} (h : ts ≠ []) :
    (mapLast (· ++ s) ts).flatten = ts.flatten ++ s := by
  induction ts with
  | nil => exact absurd rfl h
  | cons t ts ih =>
    cases ts with
    | nil => simp [mapLast]
    | cons u us =>
      rw [mapLast, List.flatten_cons, ih (List.cons_ne_nil u us), List.flatten_cons]
      simp

theorem splitShortcode_content {span : List Char} {out : List Chunk} (hspan : span ≠ [])
    (hedge : NoEdgeSpace span) (h : splitShortcode span = .ok out) :
    (∀ ch ∈ out, ch.text.toList ≠ [] ∧ NoEdgeSpace ch.text.toList) ∧
      solidChars (out.flatMap fun ch => ch.text.toList) = solidChars span := by
  rcases splitShortcode_cases h with rfl | ⟨start, stop, ts, hle, hcheck, hts, rfl⟩
  · simp [hspan, hedge]
  have htok : ∀ t ∈ glueAssignments (shortcodeTokens ((span.take stop).drop start)),
      t ≠ [] ∧ NoEdgeSpace t :=
    forall_mem_glueAssignments (fun a b ha hb => ⟨by simp [ha.1], ha.2.append hb.2⟩)
      fun t ht => ⟨ne_nil_of_mem_shortcodeTokens ht, noEdgeSpace_of_mem_shortcodeTokens ht⟩
  obtain ⟨hclosed, hsolid⟩ := closeTokens_content hts htok
  have hne : ts ≠ [] := (closeTokens_ne_nil hts fun t ht => (htok t ht).1).1
  -- the text before the shortcode starts the span, the text after it ends the span
  have hp : (span.take start).head? ≠ some ' ' := by
    rw [List.head?_take]
    split
    · simp
    · exact hedge.1
  have hs : (span.drop stop).getLast? ≠ some ' ' := by
    rw [List.getLast?_drop]
    split
    · simp
    · exact hedge.2
  refine ⟨fun ch hch => ?_, ?_⟩
  · obtain ⟨t, ht, rfl⟩ := List.mem_map.1 hch
    rw [String.toList_ofList]
    obtain ⟨y, hy, hty⟩ := mem_mapLast ht
    obtain ⟨x, hx, hyx⟩ := mem_modifyHead_append hy
    obtain ⟨hx0, hxe⟩ := hclosed x hx
    have hy' : y ≠ [] ∧ NoEdgeSpace y := by
      rcases hyx with rfl | rfl
      · exact ⟨hx0, hxe⟩
      · exact ⟨by simp [hx0], hxe.prepend hp hx0⟩
    rcases hty with rfl | rfl
    · exact hy'
    · exact ⟨by simp [hy'.1], hy'.2.append_suffix hy'.1 hs⟩
  · -- the tokens hold what the shortcode holds, and the framing puts back the rest
    have hspan' : span.take start ++ (span.take stop).drop start ++ span.drop stop = span := by
      conv_rhs => rw [← List.take_append_drop stop span]
      congr 1
      conv_rhs => rw [← List.take_append_drop start (span.take stop)]
      rw [List.take_take, Nat.min_eq_left hle]
    have hflat : (List.map (fun t => (⟨.shortcodeToken, String.ofList t⟩ : Chunk))
        (mapLast (· ++ span.drop stop) (ts.modifyHead (span.take start ++ ·)))).flatMap
          (fun ch => ch.text.toList) = span.take start ++ ts.flatten ++ span.drop stop := by
      rw [List.flatMap_map]
      simp only [String.toList_ofList]
      rw [List.flatMap_id', flatten_mapLast_append _ (by simpa using hne),
        flatten_modifyHead_append _ hne]
    rw [hflat, solidChars_append, solidChars_append, hsolid, flatten_glueAssignments, hcheck,
      ← solidChars_append, ← solidChars_append, hspan']

theorem splitShortcodes_content {cs out : List Chunk}
    (hcs : ∀ c ∈ cs, c.text.toList ≠ [] ∧ NoEdgeSpace c.text.toList)
    (h : splitShortcodes cs = .ok out) :
    (∀ ch ∈ out, ch.text.toList ≠ [] ∧ NoEdgeSpace ch.text.toList) ∧
      solidChars (out.flatMap fun ch => ch.text.toList) =
        solidChars (cs.flatMap fun ch => ch.text.toList) := by
  induction cs generalizing out with
  | nil =>
    cases h
    simp
  | cons c rest ih =>
    have hc := hcs c (by simp)
    obtain ⟨here, later, hsplit, hlater, rfl⟩ := splitShortcodes_cons h
    obtain ⟨hhere, hsolid⟩ : (∀ ch ∈ here, ch.text.toList ≠ [] ∧ NoEdgeSpace ch.text.toList) ∧
        solidChars (here.flatMap fun ch => ch.text.toList) = solidChars c.text.toList := by
      rcases hsplit with ⟨-, hsplit⟩ | ⟨-, rfl⟩
      · exact splitShortcode_content hc.1 hc.2 hsplit
      · simpa using hc
    obtain ⟨hall, hrest⟩ := ih (fun d hd => hcs d (List.mem_cons_of_mem c hd)) hlater
    refine ⟨fun d hd => ?_, ?_⟩
    · rcases List.mem_append.1 hd with hd | hd
      · exact hhere d hd
      · exact hall d hd
    · rw [List.flatMap_append, solidChars_append, hsolid, hrest, List.flatMap_cons,
        solidChars_append]

theorem solidChars_scanChunks (r : Bool) (L : List Char) :
    solidChars ((scanChunks r L).flatMap fun ch => ch.text.toList) = solidChars L := by
  induction L using scanChunks.induct r with
  | case1 => simp [scanChunks, solidChars]
  | case2 rest ih =>
    rw [scanChunks_space, ih]
    simp [solidChars, isWhite_space]
  | case3 c rest hc k n hn hnext ih =>
    rw [scanChunks_cons_of_nextChunk hc hnext, List.flatMap_cons, String.toList_ofList,
      solidChars_append, ih, ← solidChars_append, List.take_append_drop]

/-- Every chunk of a line is non-empty with no edge space, and the chunks hold all its solid text.
-/
theorem chunkLine_content {mode : ShortcodeMode} {L : String} {cs : List Chunk}
    (h : chunkLine mode L = .ok cs) :
    (∀ ch ∈ cs, ch.text.toList ≠ [] ∧ ch.text.toList.head? ≠ some ' ' ∧
        ch.text.toList.getLast? ≠ some ' ') ∧
      solidChars (cs.flatMap fun ch => ch.text.toList) = solidChars L.toList := by
  have hscan : ∀ ch ∈ scanChunks (mode != .disabled) L.toList,
      ch.text.toList ≠ [] ∧ NoEdgeSpace ch.text.toList := by
    intro ch hch
    obtain ⟨-, ⟨c, t, ht, hc⟩, hlast⟩ := mem_scanChunks hch
    exact ⟨by simp [ht], by simp [ht, hc], fun hl => hlast ' ' hl rfl⟩
  unfold chunkLine at h
  split at h
  · cases h
  · split at h
    · obtain ⟨hall, hsolid⟩ := splitShortcodes_content hscan h
      exact ⟨hall, hsolid.trans (solidChars_scanChunks _ _)⟩
    · cases h
      exact ⟨hscan, solidChars_scanChunks _ _⟩

theorem chunkLine_content_split :
    chunkLine .split "see (\x7b\x7b< figure src=\"a b.png\" >\x7d\x7d)." =
        .ok [⟨.word, "see"⟩, ⟨.shortcodeToken, "(\x7b\x7b<"⟩,
          ⟨.shortcodeToken, "figure"⟩, ⟨.shortcodeToken, "src=\"a b.png\" >\x7d\x7d)."⟩] ∧
      (∀ ch ∈ [(⟨.word, "see"⟩ : Chunk), ⟨.shortcodeToken, "(\x7b\x7b<"⟩,
          ⟨.shortcodeToken, "figure"⟩, ⟨.shortcodeToken, "src=\"a b.png\" >\x7d\x7d)."⟩],
        ch.text.toList ≠ [] ∧ ch.text.toList.head? ≠ some ' ' ∧
          ch.text.toList.getLast? ≠ some ' ') ∧
      solidChars ([(⟨.word, "see"⟩ : Chunk), ⟨.shortcodeToken, "(\x7b\x7b<"⟩,
          ⟨.shortcodeToken, "figure"⟩,
          ⟨.shortcodeToken, "src=\"a b.png\" >\x7d\x7d)."⟩].flatMap fun ch => ch.text.toList) =
        solidChars "see (\x7b\x7b< figure src=\"a b.png\" >\x7d\x7d).".toList :=
  have h : chunkLine .split "see (\x7b\x7b< figure src=\"a b.png\" >\x7d\x7d)." =
      .ok [⟨.word, "see"⟩, ⟨.shortcodeToken, "(\x7b\x7b<"⟩, ⟨.shortcodeToken, "figure"⟩,
        ⟨.shortcodeToken, "src=\"a b.png\" >\x7d\x7d)."⟩] := by
    decide +kernel
  ⟨h, chunkLine_content h⟩

end HtmlMarkdown
