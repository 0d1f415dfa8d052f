import HtmlMarkdown.Proofs.Layout

namespace HtmlMarkdown

section Unique

variable {room : Nat}

theorem Greedy.tail {g : List Chunk} {gs : List (List Chunk)} (hg : Greedy room (g :: gs)) :
    Greedy room gs :=
  ⟨fun x hx => hg.nonempty x (List.mem_cons_of_mem g hx),
    fun x hx => hg.fits x (List.mem_cons_of_mem g hx), hg.full.tail⟩

theorem Greedy.not_longer {g more : List Chunk} {gs : List (List Chunk)} {ch : Chunk}
    (hg : Greedy room (g :: gs)) (hhead : gs.flatten.head? = some ch)
    (hfit : FitsRoom room (g ++ ch :: more)) : False := by
  obtain ⟨h, hs, rfl⟩ : ∃ h hs, gs = h :: hs :=
    List.exists_cons_of_ne_nil (by rintro rfl; simp at hhead)
  have hh : h ≠ [] := hg.nonempty h (by simp)
  have hch : h.head? = some ch := by
    rwa [List.flatten_cons, List.head?_append_of_ne_nil _ hh] at hhead
  exact hfit.not_break ⟨hg.nonempty g (by simp), (List.isChain_cons_cons.1 hg.full).1 ch hch⟩

theorem Greedy.head_eq {g g' : List Chunk} {gs gs' : List (List Chunk)}
    (hg : Greedy room (g :: gs)) (hg' : Greedy room (g' :: gs'))
    (h : g ++ gs.flatten = g' ++ gs'.flatten) : g = g' := by
  rcases List.append_eq_append_iff.1 h with ⟨a, rfl, ha⟩ | ⟨b, rfl, hb⟩
  · cases a with
    | nil => simp
    | cons ch more =>
      exact (hg.not_longer (by simp [ha]) (hg'.fits (g ++ ch :: more) (by simp))).elim
  · cases b with
    | nil => simp
    | cons ch more =>
      exact (hg'.not_longer (by simp [hb]) (hg.fits (g' ++ ch :: more) (by simp))).elim

/-- Chunks have at most one greedy layout. -/
theorem Greedy.unique {gs gs' : List (List Chunk)} (hg : Greedy room gs) (hg' : Greedy room gs')
    (h : gs.flatten = gs'.flatten) : gs = gs' := by
  induction gs generalizing gs' with
  | nil =>
    cases gs' with
    | nil => rfl
    | cons g' gs' =>
      simp only [List.flatten_nil, List.flatten_cons] at h
      exact (hg'.nonempty g' (by simp) (List.append_eq_nil_iff.1 h.symm).1).elim
  | cons g gs ih =>
    cases gs' with
    | nil =>
      simp only [List.flatten_nil, List.flatten_cons] at h
      exact (hg.nonempty g (by simp) (List.append_eq_nil_iff.1 h).1).elim
    | cons g' gs' =>
      simp only [List.flatten_cons] at h
      obtain rfl := hg.head_eq hg' h
      rw [ih hg.tail hg'.tail (List.append_cancel_left h)]

end Unique

theorem exists_of_bind_eq_ok {ε α β : Type} {x : Except ε α} {f : α → Except ε β} {b : β}
    (h : x >>= f = .ok b) : ∃ a, x = .ok a ∧ f a = .ok b := by
  cases x with
  | error e => cases h
  | ok a => exact ⟨a, rfl, h⟩

theorem ne_nil_of_mem_shortcodeTokens {cs t : List Char} (h : t ∈ shortcodeTokens cs) :
    t ≠ [] := by
  induction cs using shortcodeTokens.induct with
  | case1 => simp [shortcodeTokens.eq_def] at h
  | case2 d rest hd ih =>
    rw [shortcodeTokens.eq_def] at h
    simp only [hd, ↓reduceIte, List.mem_cons] at h
    rcases h with rfl | h
    · simp
    · exact ih h
  | case3 d rest hd hq n hn ih =>
    rw [shortcodeTokens.eq_def] at h
    simp only [hd, hq, hn, Bool.false_eq_true, ↓reduceIte, List.mem_cons] at h
    rcases h with rfl | h
    · simp
    · exact ih h
  | case4 d rest hd hq hn ih =>
    rw [shortcodeTokens.eq_def] at h
    simp only [hd, hq, hn, ↓reduceIte] at h
    exact ih h
  | case5 d rest hd hq ih =>
    rw [shortcodeTokens.eq_def] at h
    simp only [hd, hq] at h
    exact ih h

theorem glueAssignments_short {ts : List (List Char)}
    (h : ∀ t v w rest, ts = t :: v :: w :: rest → False) : glueAssignments ts = ts := by
  rcases ts with _ | ⟨a, _ | ⟨b, _ | ⟨c, rest⟩⟩⟩
  · rfl
  · rfl
  · rfl
  · exact (h a b c rest rfl).elim

theorem forall_mem_glueAssignments {P : List Char → Prop}
    (happ : ∀ a b, P a → P b → P (a ++ b)) {ts : List (List Char)} (hts : ∀ t ∈ ts, P t) :
    ∀ t ∈ glueAssignments ts, P t := by
  induction ts using glueAssignments.induct with
  | case1 u v w rest heq ih =>
    intro t h
    rw [glueAssignments, if_pos heq, List.mem_cons] at h
    rcases h with rfl | h
    · exact happ u v (hts u (by simp)) (hts v (by simp))
    · exact ih (fun x hx => hts x (by simp_all)) t h
  | case2 u v w rest hne ih =>
    intro t h
    rw [glueAssignments, if_neg hne, List.mem_cons] at h
    rcases h with rfl | h
    · exact hts t (by simp)
    · exact ih (fun x hx => hts x (by simp_all)) t h
  | case3 ts hshort =>
    rw [glueAssignments_short hshort]
    exact hts

theorem ne_nil_of_mem_glueAssignments {ts : List (List Char)} (hts : ∀ t ∈ ts, t ≠ [])
    {t : List Char} (h : t ∈ glueAssignments ts) : t ≠ [] :=
  forall_mem_glueAssignments (fun a b ha _ => by simp [ha]) hts t h

theorem closeTokens_ne_nil {ts ts' : List (List Char)} (h : closeTokens ts = some ts')
    (hts : ∀ t ∈ ts, t ≠ []) : ts' ≠ [] ∧ ∀ t ∈ ts', t ≠ [] := by
  unfold closeTokens at h
  split at h
  · next close last first before hrev =>
    cases h
    refine ⟨by simp, fun t ht => ?_⟩
    rw [List.mem_reverse, List.mem_cons] at ht
    rcases ht with rfl | ht
    · simp
    · exact hts t (by rw [← List.mem_reverse, hrev]; simp [ht])
  · cases h

theorem ne_nil_of_mem_modifyHead_append {p : List Char} {ts : List (List Char)}
    (hts : ∀ t ∈ ts, t ≠ []) {y : List Char} (hy : y ∈ ts.modifyHead (p ++ ·)) : y ≠ [] := by
  cases ts with
  | nil => simp at hy
  | cons x xs =>
    rw [List.modifyHead_cons, List.mem_cons] at hy
    rcases hy with rfl | hy
    · simp [hts x (by simp)]
    · exact hts y (by simp [hy])

/-- Splitting a shortcode chunk keeps it whole or gives the checked tokens of its first shortcode.
-/
theorem splitShortcode_cases {span : List Char} {out : List Chunk}
    (h : splitShortcode span = .ok out) :
    out = [⟨.shortcode, String.ofList span⟩] ∨
      ∃ start stop ts, start ≤ stop ∧
        solidChars (shortcodeTokens ((span.take stop).drop start)).flatten =
          solidChars ((span.take stop).drop start) ∧
        closeTokens (glueAssignments (shortcodeTokens ((span.take stop).drop start))) = some ts ∧
        out = (mapLast (· ++ span.drop stop) (ts.modifyHead (span.take start ++ ·))).map
          fun t => ⟨.shortcodeToken, String.ofList t⟩ := by
  unfold splitShortcode at h
  split at h
  · exact .inl (Except.ok.inj h).symm
  · next start hstart =>
    split at h
    · exact .inl (Except.ok.inj h).symm
    · next close hclose =>
      dsimp only at h
      split at h
      · exact .inl (Except.ok.inj h).symm
      · next hcheck =>
        split at h
        · cases h
        · next ts hts =>
          exact .inr ⟨start, start + close + 3, ts, by omega, by simpa using hcheck, hts,
            (Except.ok.inj h).symm⟩

theorem splitShortcode_solid {span : List Char} {out : List Chunk} (hspan : span ≠ [])
    (h : splitShortcode span = .ok out) : out ≠ [] ∧ ∀ c ∈ out, c.Solid := by
  rcases splitShortcode_cases h with rfl | ⟨start, stop, ts, -, -, hts, rfl⟩
  · simp [Chunk.Solid, hspan]
  · -- the tokens of the shortcode, the text around it joined to the first and the last
    have hne := closeTokens_ne_nil hts fun t ht =>
      ne_nil_of_mem_glueAssignments (fun u hu => ne_nil_of_mem_shortcodeTokens hu) ht
    refine ⟨by simpa using mapLast_ne_nil _ (by simpa using hne.1), fun c hc => ?_⟩
    obtain ⟨t, ht, rfl⟩ := List.mem_map.1 hc
    obtain ⟨y, hy, hty⟩ := mem_mapLast ht
    have hy0 := ne_nil_of_mem_modifyHead_append hne.2 hy
    simp only [Chunk.Solid, String.toList_ofList]
    rcases hty with rfl | rfl
    · exact hy0
    · simp [hy0]

theorem splitShortcodes_cons {c : Chunk} {rest out : List Chunk}
    (h : splitShortcodes (c :: rest) = .ok out) :
    ∃ here later, (c.kind = .shortcode ∧ splitShortcode c.text.toList = .ok here ∨
        c.kind ≠ .shortcode ∧ here = [c]) ∧
      splitShortcodes rest = .ok later ∧ out = here ++ later := by
  rw [splitShortcodes] at h
  split at h
  · next hk =>
    obtain ⟨here, hhere, h⟩ := exists_of_bind_eq_ok h
    obtain ⟨later, hlater, h⟩ := exists_of_bind_eq_ok h
    exact ⟨here, later, .inl ⟨hk, hhere⟩, hlater, (Except.ok.inj h).symm⟩
  · next hk =>
    obtain ⟨here, hpure, h⟩ := exists_of_bind_eq_ok h
    cases hpure
    obtain ⟨later, hlater, h⟩ := exists_of_bind_eq_ok h
    exact ⟨[c], later, .inr ⟨hk, rfl⟩, hlater, (Except.ok.inj h).symm⟩

theorem splitShortcodes_solid {cs out : List Chunk} (hcs : ∀ c ∈ cs, c.Solid)
    (h : splitShortcodes cs = .ok out) : (cs ≠ [] → out ≠ []) ∧ ∀ c ∈ out, c.Solid := by
  induction cs generalizing out with
  | nil =>
    cases h
    simp
  | cons c rest ih =>
    have hc := hcs c (by simp)
    obtain ⟨here, later, hsplit, hlater, rfl⟩ := splitShortcodes_cons h
    have hhere : here ≠ [] ∧ ∀ d ∈ here, d.Solid := by
      rcases hsplit with ⟨-, hsplit⟩ | ⟨-, rfl⟩
      · exact splitShortcode_solid hc hsplit
      · exact ⟨by simp, by simpa using hc⟩
    have hlater := ih (fun d hd => hcs d (List.mem_cons_of_mem c hd)) hlater
    refine ⟨fun _ => by simp [hhere.1], fun d hd => ?_⟩
    rcases List.mem_append.1 hd with hd | hd
    · exact hhere.2 d hd
    · exact hlater.2 d hd

theorem chunkLine_solid {mode : ShortcodeMode} {line : List Char} {chunks : List Chunk}
    (h : chunkLine mode (String.ofList line) = .ok chunks) :
    ((∃ c ∈ line, c ≠ ' ') → chunks ≠ []) ∧ ∀ d ∈ chunks, d.Solid := by
  have hscan : ∀ d ∈ scanChunks (mode != .disabled) line, d.Solid := by
    intro d hd
    obtain ⟨-, ⟨e, u, he, -⟩, -⟩ := mem_scanChunks hd
    simp [Chunk.Solid, he]
  unfold chunkLine at h
  rw [String.toList_ofList] at h
  split at h
  · cases h
  · split at h
    · exact (splitShortcodes_solid hscan h).imp (fun hne hc => hne (scanChunks_ne_nil hc)) id
    · cases h
      exact ⟨scanChunks_ne_nil, hscan⟩

theorem not_mem_of_wrapLine_ok {mode : ShortcodeMode} {width : Nat} {s out : String}
    (h : wrapLine mode width s = .ok out) : '\n' ∉ s.toList := by
  intro hm
  simp [wrapLine, hm] at h

theorem intercalate_map_indent {α : Type} (I : List Char) (f : α → List Char) {xs : List α}
    (hxs : xs ≠ []) :
    ['\n'].intercalate (xs.map fun x => I ++ f x) = I ++ ('\n' :: I).intercalate (xs.map f) := by
  induction xs with
  | nil => exact absurd rfl hxs
  | cons x xs ih =>
    cases xs with
    | nil => simp
    | cons y ys =>
      have hrest := ih (List.cons_ne_nil y ys)
      simp only [List.map_cons] at hrest ⊢
      rw [List.intercalate_cons_cons, hrest, List.intercalate_cons_cons]
      simp

theorem one_lt_length_joinChunks {g : List Chunk} (hsolid : ∀ d ∈ g, d.Solid)
    (hlen : 1 < g.length) : 1 < (joinChunks g).length := by
  match g, hlen with
  | a :: b :: rest, _ =>
    have ha : a.text.toList ≠ [] := hsolid a (by simp)
    have hpos := List.length_pos_iff.2 ha
    simp only [joinChunks, List.flatMap_cons, List.length_append, List.length_cons]
    omega

theorem length_indent_group_le {width : Nat} {I : List Char} {g : List Chunk}
    (hsolid : ∀ d ∈ g, d.Solid) (hne : g ≠ []) (hfit : FitsRoom (max 1 (width - I.length)) g) :
    g.length = 1 ∨ (I ++ joinChunks g).length ≤ width := by
  rcases hfit with hlen | hle
  · exact .inl (by have := List.length_pos_iff.2 hne; omega)
  · by_cases hone : g.length = 1
    · exact .inl hone
    · -- two chunks or more take more than one character, so the room is the width past the indent
      have hwide := one_lt_length_joinChunks hsolid (by have := List.length_pos_iff.2 hne; omega)
      right
      rw [List.length_append]
      omega

/-- Wrapping a line longer than its width lays its content's chunks out greedily. -/
theorem wrapLine_first_fit {mode : ShortcodeMode} {width : Nat} {I C Tr : List Char}
    {out : String} (hp : LineParts I C Tr) (hlong : width < (I ++ C ++ Tr).length)
    (h : wrapLine mode width (String.ofList (I ++ C ++ Tr)) = .ok out) :
    ∃ chunks, chunkLine mode (String.ofList C) = .ok chunks ∧ chunks ≠ [] ∧
      ∃ G : List (List Chunk), G.flatten = chunks ∧ Greedy (max 1 (width - I.length)) G ∧
        out.toList = I ++ ('\n' :: I).intercalate (G.map joinChunks) ++ Tr ∧
        (∀ G' : List (List Chunk), G'.flatten = chunks →
          Greedy (max 1 (width - I.length)) G' → G' = G) ∧
        ∀ g ∈ G, g.length = 1 ∨ (I ++ joinChunks g).length ≤ width := by
  have hlf : '\n' ∉ C := fun hm => not_mem_of_wrapLine_ok h (by simp [hm])
  rw [wrapLine_eq_map_fill hp hlf hlong] at h
  obtain ⟨chunks, hch, hout⟩ : ∃ chunks, chunkLine mode (String.ofList C) = .ok chunks ∧
      String.ofList (['\n'].intercalate ((fillLines (max 1 (width - I.length)) chunks).map
        fun s => I ++ s.toList) ++ Tr) = out := by
    cases hc : chunkLine mode (String.ofList C) with
    | error e =>
      rw [hc] at h
      cases h
    | ok chunks =>
      rw [hc] at h
      exact ⟨chunks, rfl, Except.ok.inj h⟩
  obtain ⟨c, t, hct, hc⟩ := hp.first
  obtain ⟨hne, hsolid⟩ := chunkLine_solid hch
  have hne := hne ⟨c, by simp [hct], hc⟩
  obtain ⟨G, hflat, hG, hfill⟩ := fillLines_greedy (max 1 (width - I.length)) hsolid hne
  have hGne : G ≠ [] := by
    rintro rfl
    exact hne hflat.symm
  have hGsolid : ∀ g ∈ G, ∀ d ∈ g, d.Solid := fun g hg d hd =>
    hsolid d (hflat ▸ List.mem_flatten.2 ⟨g, hg, hd⟩)
  refine ⟨chunks, hch, hne, G, hflat, hG, ?_,
    fun G' hflat' hG' => hG'.unique hG (hflat'.trans hflat.symm),
    fun g hg => length_indent_group_le (hGsolid g hg) (hG.nonempty g hg) (hG.fits g hg)⟩
  rw [← hout, String.toList_ofList, hfill, List.map_map]
  have hcomp : ((fun s : String => I ++ s.toList) ∘ fun g => String.ofList (joinChunks g)) =
      fun g => I ++ joinChunks g := by
    funext g
    simp
  rw [hcomp, intercalate_map_indent I joinChunks hGne]

theorem wrapLine_first_fit_shortcode :
    LineParts "  ".toList "aa \x7b\x7b< bb c >\x7d\x7d dd".toList " ".toList ∧
      9 < ("  ".toList ++ "aa \x7b\x7b< bb c >\x7d\x7d dd".toList ++ " ".toList).length ∧
      wrapLine .split 9
          (String.ofList ("  ".toList ++ "aa \x7b\x7b< bb c >\x7d\x7d dd".toList ++ " ".toList)) =
        .ok "  aa \x7b\x7b<\n  bb\n  c >\x7d\x7d\n  dd " ∧
      ∃ chunks,
        chunkLine .split (String.ofList "aa \x7b\x7b< bb c >\x7d\x7d dd".toList) = .ok chunks ∧
        chunks ≠ [] ∧
        ∃ G : List (List Chunk), G.flatten = chunks ∧ Greedy (max 1 (9 - "  ".toList.length)) G ∧
          "  aa \x7b\x7b<\n  bb\n  c >\x7d\x7d\n  dd ".toList =
            "  ".toList ++ ('\n' :: "  ".toList).intercalate (G.map joinChunks) ++ " ".toList ∧
          (∀ G' : List (List Chunk), G'.flatten = chunks →
            Greedy (max 1 (9 - "  ".toList.length)) G' → G' = G) ∧
          ∀ g ∈ G, g.length = 1 ∨ ("  ".toList ++ joinChunks g).length ≤ 9 :=
  have hp : LineParts "  ".toList "aa \x7b\x7b< bb c >\x7d\x7d dd".toList " ".toList :=
    ⟨by simp, by simp, ⟨'a', "a \x7b\x7b< bb c >\x7d\x7d dd".toList, rfl, by decide⟩, by simp⟩
  have hlong :
      9 < ("  ".toList ++ "aa \x7b\x7b< bb c >\x7d\x7d dd".toList ++ " ".toList).length := by
    decide
  have h : wrapLine .split 9
      (String.ofList ("  ".toList ++ "aa \x7b\x7b< bb c >\x7d\x7d dd".toList ++ " ".toList)) =
        .ok "  aa \x7b\x7b<\n  bb\n  c >\x7d\x7d\n  dd " := by
    decide +kernel
  ⟨hp, hlong, h, wrapLine_first_fit hp hlong h⟩

end HtmlMarkdown
