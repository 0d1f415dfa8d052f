import HtmlMarkdown.Convert.Block
import HtmlMarkdown.Proofs.Rewrap

namespace HtmlMarkdown

/-- The width of a line: its length without its trailing spaces. -/
def lineWidth (l : List Char) : Nat := (dropEndBy (· == ' ') l).length

/-- Every line of the text is at most `w` wide. -/
def Fits (w : Nat) (cs : List Char) : Prop := ∀ m, m <:+: cs → '\n' ∉ m → lineWidth m ≤ w

section Width

variable {a b : List Char}

theorem dropEndBy_append_of_spaces (hb : ∀ x ∈ b, x = ' ') :
    dropEndBy (· == ' ') (a ++ b) = dropEndBy (· == ' ') a := by
  unfold dropEndBy
  rw [List.reverse_append, List.dropWhile_append_of_pos (by simpa using hb)]

theorem dropEndBy_append_of_solid (hb : ∃ x ∈ b, x ≠ ' ') :
    dropEndBy (· == ' ') (a ++ b) = a ++ dropEndBy (· == ' ') b := by
  unfold dropEndBy
  have hne : b.reverse.dropWhile (· == ' ') ≠ [] := by
    obtain ⟨x, hx, hsp⟩ := hb
    rw [ne_eq, List.dropWhile_eq_nil_iff]
    exact fun h => hsp (by simpa using h x (List.mem_reverse.2 hx))
  rw [List.reverse_append, List.dropWhile_append, if_neg (by simpa using hne),
    List.reverse_append, List.reverse_reverse]

theorem lineWidth_of_spaces (hb : ∀ x ∈ b, x = ' ') : lineWidth b = 0 := by
  have h := dropEndBy_append_of_spaces (a := []) hb
  rw [List.nil_append] at h
  rw [lineWidth, h]
  rfl

theorem lineWidth_le_length (l : List Char) : lineWidth l ≤ l.length := by
  unfold lineWidth dropEndBy
  rw [List.length_reverse]
  exact (List.dropWhile_suffix _).length_le.trans (List.length_reverse).le

theorem lineWidth_append_le (a b : List Char) : lineWidth (a ++ b) ≤ a.length + lineWidth b := by
  by_cases hb : ∀ x ∈ b, x = ' '
  · rw [lineWidth, dropEndBy_append_of_spaces hb]
    exact (lineWidth_le_length a).trans (Nat.le_add_right _ _)
  · push Not at hb
    rw [lineWidth, dropEndBy_append_of_solid hb, List.length_append, lineWidth]

theorem lineWidth_le_of_isInfix {m l : List Char} (h : m <:+: l) : lineWidth m ≤ lineWidth l := by
  obtain ⟨s, t, rfl⟩ := h
  by_cases ht : ∀ x ∈ t, x = ' '
  · have hl : lineWidth (s ++ m ++ t) = lineWidth (s ++ m) := by
      rw [lineWidth, lineWidth, dropEndBy_append_of_spaces ht]
    rw [hl]
    by_cases hm : ∀ x ∈ m, x = ' '
    · rw [lineWidth_of_spaces hm]
      exact Nat.zero_le _
    · push Not at hm
      have : lineWidth (s ++ m) = s.length + lineWidth m := by
        rw [lineWidth, lineWidth, dropEndBy_append_of_solid hm, List.length_append]
      omega
  · push Not at ht
    have : lineWidth (s ++ m ++ t) = (s ++ m).length + lineWidth t := by
      rw [lineWidth, lineWidth, dropEndBy_append_of_solid ht, List.length_append]
    have := lineWidth_le_length m
    rw [List.length_append] at *
    omega

end Width

section Fitting

variable {w : Nat} {a b : List Char}

theorem Fits.of_isInfix (h : Fits w a) (hb : b <:+: a) : Fits w b :=
  fun m hm hlf => h m (hm.trans hb) hlf

theorem Fits.mono {w' : Nat} (h : Fits w a) (hw : w ≤ w') : Fits w' a :=
  fun m hm hlf => (h m hm hlf).trans hw

theorem fits_nil : Fits w [] := by
  intro m hm _
  rw [List.eq_nil_of_infix_nil hm]
  exact Nat.zero_le _

theorem fits_line (hw : lineWidth a ≤ w) : Fits w a :=
  fun _ hm _ => (lineWidth_le_of_isInfix hm).trans hw

theorem infix_append_of_break {m : List Char} (hm : '\n' ∉ m)
    (hsep : a.getLast? = some '\n' ∨ b.head? = some '\n') (h : m <:+: a ++ b) :
    m <:+: a ∨ m <:+: b := by
  have hhead : ∀ c ∈ ('\n' :: b).head?, c ∉ m.tail := by
    intro c hc hmem
    cases hc
    exact hm (List.mem_of_mem_tail hmem)
  rcases hsep with ha | hb
  · obtain ⟨a', rfl⟩ := List.getLast?_eq_some_iff.1 ha
    rw [List.append_assoc, List.singleton_append] at h
    rcases infix_append_of_head hhead h with h | h
    · exact .inl (h.trans (List.prefix_append _ _).isInfix)
    · rcases List.infix_cons_iff.1 h with h | h
      · cases m with
        | nil => exact .inr List.nil_infix
        | cons x m => exact absurd ((List.cons_prefix_cons.1 h).1 ▸ List.mem_cons_self) hm
      · exact .inr h
  · obtain ⟨b', rfl⟩ : ∃ b', b = '\n' :: b' := by
      cases b with
      | nil => simp at hb
      | cons x b' => exact ⟨b', by simpa using hb⟩
    exact infix_append_of_head hhead h

theorem Fits.append (ha : Fits w a) (hb : Fits w b)
    (hsep : a = [] ∨ a.getLast? = some '\n' ∨ b.head? = some '\n') : Fits w (a ++ b) := by
  intro m hm hlf
  rcases hsep with rfl | hsep
  · exact hb m hm hlf
  · rcases infix_append_of_break hlf hsep hm with h | h
    · exact ha m h hlf
    · exact hb m h hlf

theorem fits_break : Fits w ['\n'] := by
  intro m hm hlf
  cases m with
  | nil => exact Nat.zero_le _
  | cons x m =>
    have hx : x = '\n' := List.mem_singleton.1 (hm.subset List.mem_cons_self)
    exact absurd (hx ▸ List.mem_cons_self) hlf

theorem fits_intercalate {ls : List (List Char)} (h : ∀ l ∈ ls, '\n' ∉ l ∧ lineWidth l ≤ w) :
    Fits w (['\n'].intercalate ls) := by
  induction ls with
  | nil => exact fits_nil
  | cons l ls ih =>
    have hl := h l List.mem_cons_self
    have hrest := ih fun l' hl' => h l' (List.mem_cons_of_mem l hl')
    cases ls with
    | nil => simpa using fits_line hl.2
    | cons l' ls =>
      rw [List.intercalate_cons_cons, List.append_assoc]
      exact (fits_line hl.2).append (fits_break.append hrest (.inr (.inl rfl)))
        (.inr (.inr rfl))

end Fitting

theorem endLine_prefix (line : List Char) : endLine line <+: line := by
  unfold endLine
  split
  · next before h =>
    have : line = before.reverse ++ ['\r'] := by
      rw [← List.reverse_reverse line, h, List.reverse_cons]
    exact this ▸ List.prefix_append _ _
  · exact List.prefix_refl _

theorem mem_splitLinesFrom {cur cs l : List Char} (hcur : '\n' ∉ cur)
    (h : l ∈ splitLinesFrom cur cs) : '\n' ∉ l ∧ l <:+: cur.reverse ++ cs := by
  induction cs generalizing cur with
  | nil =>
    unfold splitLinesFrom at h
    split at h
    · simp at h
    · rw [List.mem_singleton.1 h]
      exact ⟨by simpa using hcur, by simp⟩
  | cons c rest ih =>
    unfold splitLinesFrom at h
    split at h
    · next hc =>
      rcases List.mem_cons.1 h with rfl | h
      · have hpre := endLine_prefix cur.reverse
        exact ⟨fun hm => hcur (List.mem_reverse.1 (hpre.subset hm)),
          hpre.isInfix.trans (List.prefix_append _ _).isInfix⟩
      · obtain ⟨hlf, hin⟩ := ih (by simp) h
        exact ⟨hlf, by
          simpa using hin.trans ((List.suffix_cons c rest).trans (List.suffix_append _ _)).isInfix⟩
    · next hc =>
      obtain ⟨hlf, hin⟩ := ih (by simp only [List.mem_cons, not_or]; exact ⟨Ne.symm hc, hcur⟩) h
      exact ⟨hlf, by simpa using hin⟩

theorem mem_lines {s l : String} (h : l ∈ lines s) : '\n' ∉ l.toList ∧ l.toList <:+: s.toList := by
  obtain ⟨l', hl', rfl⟩ := List.mem_map.1 h
  simpa using @mem_splitLinesFrom [] _ _ (by simp) hl'

section Blocks

variable {w : Nat}

theorem fits_quoteLines {content : String} (hw : 2 ≤ w) (h : Fits (w - 2) content.toList) :
    Fits w (quoteLines content).toList := by
  rw [quoteLines, String.toList_intercalate, List.map_map]
  apply fits_intercalate
  intro q hq
  obtain ⟨l, hl, rfl⟩ := List.mem_map.1 hq
  obtain ⟨hlf, hin⟩ := mem_lines hl
  dsimp only [Function.comp_apply]
  split
  · exact ⟨by decide, by simp [lineWidth, dropEndBy]; omega⟩
  · refine ⟨by simpa using hlf, ?_⟩
    have h1 := lineWidth_append_le "> ".toList l.toList
    have h2 := h l.toList hin hlf
    have h3 : "> ".toList.length = 2 := rfl
    rw [String.toList_append]
    omega

theorem fits_indent {text : String} {k : Nat} (hk : k ≤ w) (h : Fits (w - k) text.toList) :
    Fits w (indent text (spaces k) false).toList := by
  rw [indent, String.toList_intercalate, List.map_map]
  apply fits_intercalate
  intro q hq
  obtain ⟨l, hl, rfl⟩ := List.mem_map.1 hq
  obtain ⟨hlf, hin⟩ := mem_lines hl
  have hwl := h l.toList hin hlf
  dsimp only [Function.comp_apply]
  split
  · have := lineWidth_append_le (spaces k).toList l.toList
    have hsp : '\n' ∉ (spaces k).toList := by simp [spaces]
    simp only [String.toList_append, spaces, String.toList_ofList, List.length_replicate,
      List.mem_append] at *
    exact ⟨by simp [hlf, hsp], by omega⟩
  · exact ⟨hlf, hwl.trans (Nat.sub_le _ _)⟩

theorem fits_marker_hangingIndent {marker content : String} (hk : marker.length ≤ w) (h : Fits (w - marker.length) content.toList) :
    Fits w (marker ++ hangingIndent marker.length content).toList := by
  have hfirst : ∀ {first : List Char}, first <:+: content.toList → '\n' ∉ first →
      Fits w (marker.toList ++ first) := by
    intro first hin hfl
    refine fits_line ?_
    have := lineWidth_append_le marker.toList first
    have := h first hin hfl
    rw [String.length_toList] at *
    omega
  unfold hangingIndent
  dsimp only
  split
  · next hd =>
    have hno : '\n' ∉ content.toList := fun hm =>
      by simpa using List.dropWhile_eq_nil_iff.1 hd _ hm
    simpa using hfirst (List.infix_refl _) hno
  · next x rest hd =>
    have hsplit := (List.takeWhile_append_dropWhile (p := (· != '\n'))
      (l := content.toList)).symm
    rw [hd] at hsplit
    have hfl : '\n' ∉ content.toList.takeWhile (· != '\n') := fun hm => by
      simpa using List.mem_takeWhile_imp hm
    have hrest : Fits (w - marker.length) (String.ofList rest).toList :=
      h.of_isInfix (by
        rw [String.toList_ofList, hsplit]
        exact ((List.suffix_cons x rest).trans (List.suffix_append _ _)).isInfix)
    simp only [String.toList_append, String.toList_ofList, List.append_assoc]
    refine (hfirst ?_ hfl).append
      (fits_break.append (fits_indent hk hrest) (.inr (.inl rfl)))
      (.inr (.inr rfl)) |>.of_isInfix (by simp)
    exact ( List.takeWhile_prefix _).isInfix

theorem trimWhite_isInfix (s : String) : (trimWhite s).toList <:+: s.toList := by
  simp only [trimWhite, stripWhite, dropWhiteEnd, dropWhite, String.toList_ofList]
  exact (List.reverse_reverse (s.toList.dropWhile isWhite) ▸
    (List.dropWhile_suffix _).reverse).isInfix.trans (List.dropWhile_suffix _).isInfix

end Blocks

/-- Every piece of `a` without line feeds is a piece of `b`: `a` has no line that `b` lacks. -/
def PiecesIn (a b : List Char) : Prop := ∀ m, m <:+: a → '\n' ∉ m → m <:+: b

section Pieces

variable {a b : List Char}

theorem Fits.of_piecesIn {w : Nat} (h : Fits w b) (hab : PiecesIn a b) : Fits w a :=
  fun m hm hlf => h m (hab m hm hlf) hlf

theorem PiecesIn.trans {c : List Char} (hab : PiecesIn a b) (hbc : PiecesIn b c) : PiecesIn a c :=
  fun m hm hlf => hbc m (hab m hm hlf) hlf

theorem piecesIn_of_isInfix (h : a <:+: b) : PiecesIn a b := fun _ hm _ => hm.trans h

theorem piecesIn_break_cons (a : List Char) : PiecesIn ('\n' :: a) a := by
  intro m hm hlf
  rcases List.infix_cons_iff.1 hm with h | h
  · cases m with
    | nil => exact List.nil_infix
    | cons x m => exact absurd ((List.cons_prefix_cons.1 h).1 ▸ List.mem_cons_self) hlf
  · exact h

theorem piecesIn_append_break (a : List Char) : PiecesIn (a ++ ['\n']) a := by
  intro m hm hlf
  rcases infix_append_of_break hlf (.inr rfl) hm with h | h
  · exact h
  · have : m = [] := by
      cases m with
      | nil => rfl
      | cons x m => exact absurd (List.mem_singleton.1 (h.subset List.mem_cons_self) ▸
          List.mem_cons_self) hlf
    exact this ▸ List.nil_infix

end Pieces

theorem takeBreaks_suffix (cs : List Char) : (takeBreaks cs).2 <:+ cs := by
  induction cs using takeBreaks.induct with
  | case1 rest n r h ih =>
    rw [h] at ih
    simpa [takeBreaks, h] using ih.trans (List.suffix_cons _ _)
  | case2 rest n r h ih =>
    rw [h] at ih
    simpa [takeBreaks, h] using ih.trans ((List.suffix_cons _ _).trans (List.suffix_cons _ _))
  | case3 cs h1 h2 =>
    rw [takeBreaks.eq_3 _ h1 h2]

theorem takeBreaksBack_suffix (cs : List Char) : (takeBreaksBack cs).2 <:+ cs := by
  induction cs using takeBreaksBack.induct with
  | case1 rest n r h ih =>
    rw [h] at ih
    simpa [takeBreaksBack, h] using ih.trans ((List.suffix_cons _ _).trans (List.suffix_cons _ _))
  | case2 rest hr n r h ih =>
    rw [h] at ih
    rw [takeBreaksBack.eq_2 _ hr, h]
    exact ih.trans (List.suffix_cons _ _)
  | case3 cs h1 h2 =>
    rw [takeBreaksBack.eq_3 _ h1 h2]

theorem prefix_of_collapseInnerBreaks (cs : List Char) :
    ∀ m, '\n' ∉ m → m <+: collapseInnerBreaks cs → m <+: cs := by
  fun_induction collapseInnerBreaks cs with
  | case1 => exact fun _ _ h => h
  | case2 c rest r hr ih =>
    intro m hm h
    cases m with
    | nil => exact List.nil_prefix
    | cons x m => exact absurd ((List.cons_prefix_cons.1 h).1 ▸ List.mem_cons_self) hm
  | case3 c rest r hr ih =>
    intro m hm h
    cases m with
    | nil => exact List.nil_prefix
    | cons x m =>
      obtain ⟨rfl, hpre⟩ := List.cons_prefix_cons.1 h
      exact List.cons_prefix_cons.2 ⟨rfl, ih m (fun h' => hm (List.mem_cons_of_mem _ h')) hpre⟩

theorem piecesIn_collapseInnerBreaks (cs : List Char) : PiecesIn (collapseInnerBreaks cs) cs := by
  fun_induction collapseInnerBreaks cs with
  | case1 => exact fun _ hm _ => hm
  | case2 c rest r hr ih =>
    have hr : PiecesIn ('\n' :: '\n' :: collapseInnerBreaks r.2) r.2 :=
      (piecesIn_break_cons _).trans ((piecesIn_break_cons _).trans ih)
    exact hr.trans (piecesIn_of_isInfix (takeBreaks_suffix _).isInfix)
  | case3 c rest r hr ih =>
    intro m hm hlf
    rcases List.infix_cons_iff.1 hm with h | h
    · cases m with
      | nil => exact List.nil_infix
      | cons x m =>
        obtain ⟨rfl, hpre⟩ := List.cons_prefix_cons.1 h
        exact (List.cons_prefix_cons.2 ⟨rfl, prefix_of_collapseInnerBreaks rest m
          (fun h' => hlf (List.mem_cons_of_mem _ h')) hpre⟩).isInfix
    · exact (ih m h hlf).trans (List.suffix_cons _ _).isInfix

theorem fits_collapseBlankLines {w : Nat} {s : String} (h : Fits w s.toList) :
    Fits w (collapseBlankLines s).toList := by
  unfold collapseBlankLines
  dsimp only
  rw [String.toList_ofList]
  refine h.of_piecesIn ((piecesIn_collapseInnerBreaks _).trans ?_)
  -- the ends lose line feeds only
  generalize hcs : (if 1 < (takeBreaks s.toList).1 then '\n' :: (takeBreaks s.toList).2
    else s.toList) = cs
  have hfront : PiecesIn cs s.toList := by
    rw [← hcs]
    split
    · exact (piecesIn_break_cons _).trans (piecesIn_of_isInfix (takeBreaks_suffix _).isInfix)
    · exact piecesIn_of_isInfix (List.infix_refl _)
  refine PiecesIn.trans ?_ hfront
  split
  · have hpre := (takeBreaksBack_suffix cs.reverse).reverse
    rw [List.reverse_reverse] at hpre
    exact (piecesIn_append_break _).trans (piecesIn_of_isInfix hpre.isInfix)
  · exact piecesIn_of_isInfix (List.infix_refl _)

end HtmlMarkdown
