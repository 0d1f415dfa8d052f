import HtmlMarkdown.Proofs.LooseItems
import HtmlMarkdown.Proofs.LineWidth

namespace HtmlMarkdown

/-- Every carriage return of a text stands right before a line feed. -/
def CrBeforeLf : List Char → Prop
  | [] => True
  | c :: cs => (c = '\r' → cs.head? = some '\n') ∧ CrBeforeLf cs

instance decCrBeforeLf : DecidablePred CrBeforeLf
  | [] => inferInstanceAs (Decidable True)
  | c :: cs =>
    have := decCrBeforeLf cs
    inferInstanceAs (Decidable ((c = '\r' → cs.head? = some '\n') ∧ CrBeforeLf cs))

theorem CrBeforeLf.of_suffix {s cs : List Char} (hs : s <:+ cs) (h : CrBeforeLf cs) :
    CrBeforeLf s := by
  obtain ⟨pre, rfl⟩ := hs
  induction pre with
  | nil => exact h
  | cons c pre ih => exact ih h.2

theorem CrBeforeLf.lf_cons {cs : List Char} (h : CrBeforeLf cs) : CrBeforeLf ('\n' :: cs) :=
  ⟨by simp, h⟩

theorem CrBeforeLf.append_lf {P T : List Char} (h : CrBeforeLf (P ++ T)) :
    CrBeforeLf (P ++ ['\n']) := by
  induction P with
  | nil => exact CrBeforeLf.lf_cons trivial
  | cons c P ih =>
    refine ⟨fun hc => ?_, ih h.2⟩
    have hnext := h.1 hc
    cases P with
    | nil => rfl
    | cons d P => simpa using hnext

theorem takeBreaks_lf (rest : List Char) :
    takeBreaks ('\n' :: rest) = ((takeBreaks rest).1 + 1, (takeBreaks rest).2) := rfl

theorem takeBreaks_crlf (rest : List Char) :
    takeBreaks ('\r' :: '\n' :: rest) = ((takeBreaks rest).1 + 1, (takeBreaks rest).2) := rfl

theorem takeBreaks_of_fst_eq_zero {cs : List Char} (h : (takeBreaks cs).1 = 0) :
    takeBreaks cs = (0, cs) := by
  induction cs using takeBreaks.induct with
  | case1 rest n r hr _ => simp [takeBreaks_lf] at h
  | case2 rest n r hr _ => simp [takeBreaks_crlf] at h
  | case3 cs h1 h2 => exact takeBreaks.eq_3 _ h1 h2

theorem takeBreaks_rest (cs : List Char) : (takeBreaks (takeBreaks cs).2).1 = 0 := by
  induction cs using takeBreaks.induct with
  | case1 rest n r h ih => simpa [takeBreaks_lf] using ih
  | case2 rest n r h ih => simpa [takeBreaks_crlf] using ih
  | case3 cs h1 h2 => simp only [takeBreaks.eq_3 _ h1 h2]

theorem takeBreaks_append_of_snd_nil {B : List Char} {n : Nat} (h : takeBreaks B = (n, []))
    (C : List Char) : takeBreaks (B ++ C) = (n + (takeBreaks C).1, (takeBreaks C).2) := by
  induction B using takeBreaks.induct generalizing n with
  | case1 rest m r hr ih =>
    simp only [takeBreaks_lf, hr, Prod.mk.injEq] at h
    obtain ⟨rfl, rfl⟩ := h
    rw [List.cons_append, takeBreaks_lf, ih hr]
    simp only [Prod.mk.injEq, and_true]
    omega
  | case2 rest m r hr ih =>
    simp only [takeBreaks_crlf, hr, Prod.mk.injEq] at h
    obtain ⟨rfl, rfl⟩ := h
    rw [List.cons_append, List.cons_append, takeBreaks_crlf, ih hr]
    simp only [Prod.mk.injEq, and_true]
    omega
  | case3 B h1 h2 =>
    rw [takeBreaks.eq_3 _ h1 h2, Prod.mk.injEq] at h
    obtain ⟨rfl, rfl⟩ := h
    simp

theorem eq_of_takeBreaks_le_one {B : List Char} {n : Nat} (h : takeBreaks B = (n, []))
    (hn : n ≤ 1) : B = [] ∨ B = ['\n'] ∨ B = ['\r', '\n'] := by
  induction B using takeBreaks.induct generalizing n with
  | case1 rest m r hr _ =>
    simp only [takeBreaks_lf, hr, Prod.mk.injEq] at h
    obtain ⟨rfl, rfl⟩ := h
    -- nothing is left to read after the one line break
    have hrest : takeBreaks rest = (0, rest) := takeBreaks_of_fst_eq_zero (by rw [hr]; omega)
    rw [hr, Prod.mk.injEq] at hrest
    simp [← hrest.2]
  | case2 rest m r hr _ =>
    simp only [takeBreaks_crlf, hr, Prod.mk.injEq] at h
    obtain ⟨rfl, rfl⟩ := h
    have hrest : takeBreaks rest = (0, rest) := takeBreaks_of_fst_eq_zero (by rw [hr]; omega)
    rw [hr, Prod.mk.injEq] at hrest
    simp [← hrest.2]
  | case3 B h1 h2 =>
    rw [takeBreaks.eq_3 _ h1 h2, Prod.mk.injEq] at h
    exact .inl h.2

section Solid

variable {x : Char} (hn : x ≠ '\n') (hr : x ≠ '\r')
include hn hr

theorem takeBreaks_append_solid (A B : List Char) :
    takeBreaks (A ++ x :: B) = ((takeBreaks A).1, (takeBreaks A).2 ++ x :: B) := by
  induction A using takeBreaks.induct with
  | case1 rest n r h ih => rw [List.cons_append, takeBreaks_lf, ih, takeBreaks_lf]
  | case2 rest n r h ih =>
    rw [List.cons_append, List.cons_append, takeBreaks_crlf, ih, takeBreaks_crlf]
  | case3 A h1 h2 =>
    rw [takeBreaks.eq_3 A h1 h2, takeBreaks.eq_3]
    · intro rest hA
      cases A with
      | nil => exact hn (List.cons.inj hA).1
      | cons a A =>
        simp only [List.cons_append, List.cons.injEq] at hA
        exact h1 A (by rw [hA.1])
    · intro rest hA
      cases A with
      | nil => exact hr (List.cons.inj hA).1
      | cons a A =>
        cases A with
        | nil =>
          simp only [List.cons_append, List.nil_append, List.cons.injEq] at hA
          exact hn hA.2.1
        | cons b A =>
          simp only [List.cons_append, List.cons.injEq] at hA
          exact h2 A (by rw [hA.1, hA.2.1])

end Solid

theorem collapseInnerBreaks_of_lt {c : Char} {rest : List Char}
    (h : (takeBreaks (c :: rest)).1 < 3) :
    collapseInnerBreaks (c :: rest) = c :: collapseInnerBreaks rest := by
  rw [collapseInnerBreaks.eq_2, dif_neg (Nat.not_le.2 h)]

theorem collapseInnerBreaks_of_three_le {c : Char} {rest : List Char}
    (h : 3 ≤ (takeBreaks (c :: rest)).1) :
    collapseInnerBreaks (c :: rest) =
      '\n' :: '\n' :: collapseInnerBreaks (takeBreaks (c :: rest)).2 := by
  rw [collapseInnerBreaks.eq_2, dif_pos h]

theorem collapseInnerBreaks_append_cons_solid {x : Char} (hn : x ≠ '\n') (hr : x ≠ '\r')
    (A B : List Char) :
    collapseInnerBreaks (A ++ x :: B) = collapseInnerBreaks A ++ x :: collapseInnerBreaks B := by
  -- each run before the character is read the same with the rest of the text after it
  have hrun : ∀ c rest, takeBreaks (c :: (rest ++ x :: B)) =
      ((takeBreaks (c :: rest)).1, (takeBreaks (c :: rest)).2 ++ x :: B) :=
    fun c rest => takeBreaks_append_solid hn hr (c :: rest) B
  fun_induction collapseInnerBreaks A with
  | case1 => rw [List.nil_append, collapseInnerBreaks_solid hn hr, List.nil_append]
  | case2 c rest r hr3 ih =>
    rw [List.cons_append, collapseInnerBreaks_of_three_le (by rw [hrun]; exact hr3), hrun, ih]
    rfl
  | case3 c rest r hr3 ih =>
    rw [List.cons_append, collapseInnerBreaks_of_lt (by rw [hrun]; exact Nat.lt_of_not_le hr3), ih]
    rfl

theorem takeBreaks_collapseInnerBreaks {cs : List Char} (h : CrBeforeLf cs) :
    (takeBreaks (collapseInnerBreaks cs)).1 = min 2 (takeBreaks cs).1 := by
  fun_induction collapseInnerBreaks cs with
  | case1 => rfl
  | case2 c rest r hr ih =>
    -- two line feeds, then a text that starts with no line break
    have hr' : 3 ≤ (takeBreaks (c :: rest)).1 := hr
    have h0 : (takeBreaks r.2).1 = 0 := takeBreaks_rest (c :: rest)
    have hrest := ih (h.of_suffix (takeBreaks_suffix _))
    rw [h0] at hrest
    simp only [takeBreaks_lf, hrest]
    omega
  | case3 c rest r hr ih =>
    have hr' : (takeBreaks (c :: rest)).1 < 3 := Nat.lt_of_not_le hr
    have ih := ih h.2
    by_cases hlf : c = '\n'
    · subst hlf
      rw [takeBreaks_lf] at hr' ⊢
      rw [takeBreaks_lf, ih]
      omega
    by_cases hcr : c = '\r'
    · -- a carriage return is read with the line feed after it
      subst hcr
      obtain ⟨rest', rfl⟩ : ∃ rest', rest = '\n' :: rest' := by
        have hhead := h.1 rfl
        cases rest with
        | nil => simp at hhead
        | cons d rest' => exact ⟨rest', by simpa using hhead⟩
      rw [takeBreaks_crlf] at hr'
      rw [collapseInnerBreaks_of_lt (by rw [takeBreaks_lf]; exact hr')] at ih ⊢
      rw [takeBreaks_lf, takeBreaks_lf] at ih
      rw [takeBreaks_crlf, takeBreaks_crlf, ih]
    · rw [takeBreaks_solid hlf hcr, takeBreaks_solid hlf hcr]
      rfl

def NoTripleBreak (cs : List Char) : Prop := ∀ s, s <:+ cs → (takeBreaks s).1 < 3

theorem noTripleBreak_nil : NoTripleBreak [] := by
  intro s hs
  rw [List.suffix_nil.1 hs]
  decide

theorem noTripleBreak_cons {c : Char} {cs : List Char} :
    NoTripleBreak (c :: cs) ↔ (takeBreaks (c :: cs)).1 < 3 ∧ NoTripleBreak cs := by
  constructor
  · intro h
    exact ⟨h _ (List.suffix_refl _), fun s hs => h s (hs.trans (List.suffix_cons c cs))⟩
  · rintro ⟨h0, h⟩ s hs
    rcases List.suffix_cons_iff.1 hs with rfl | hs
    · exact h0
    · exact h s hs

theorem noTripleBreak_collapseInnerBreaks {cs : List Char} (h : CrBeforeLf cs) :
    NoTripleBreak (collapseInnerBreaks cs) := by
  fun_induction collapseInnerBreaks cs with
  | case1 => exact noTripleBreak_nil
  | case2 c rest r hr ih =>
    -- the two line feeds come before a text that starts with no line break
    have hr2 : CrBeforeLf r.2 := h.of_suffix (takeBreaks_suffix _)
    have h0 : (takeBreaks (collapseInnerBreaks r.2)).1 = 0 := by
      rw [takeBreaks_collapseInnerBreaks hr2, show (takeBreaks r.2).1 = 0 from takeBreaks_rest _]
      rfl
    refine noTripleBreak_cons.2 ⟨?_, noTripleBreak_cons.2 ⟨?_, ih hr2⟩⟩ <;>
      simp only [takeBreaks_lf, h0] <;> omega
  | case3 c rest r hr ih =>
    have hr' : (takeBreaks (c :: rest)).1 < 3 := Nat.lt_of_not_le hr
    refine noTripleBreak_cons.2 ⟨?_, ih h.2⟩
    rw [← collapseInnerBreaks_of_lt hr', takeBreaks_collapseInnerBreaks h]
    omega

theorem collapseInnerBreaks_of_noTripleBreak {cs : List Char} (h : NoTripleBreak cs) :
    collapseInnerBreaks cs = cs := by
  induction cs with
  | nil => exact collapseInnerBreaks.eq_1
  | cons c rest ih =>
    obtain ⟨hlt, hrest⟩ := noTripleBreak_cons.1 h
    rw [collapseInnerBreaks_of_lt hlt, ih hrest]

theorem collapseInnerBreaks_of_takeBreaks_le_one {B : List Char} {n : Nat}
    (h : takeBreaks B = (n, [])) (hn : n ≤ 1) : collapseInnerBreaks B = B := by
  rcases eq_of_takeBreaks_le_one h hn with rfl | rfl | rfl
  · exact collapseInnerBreaks.eq_1
  · rw [collapseInnerBreaks_of_lt (by decide), collapseInnerBreaks.eq_1]
  · rw [collapseInnerBreaks_of_lt (by decide), collapseInnerBreaks_of_lt (by decide),
      collapseInnerBreaks.eq_1]

theorem takeBreaksBack_reverse_append {B : List Char} {n : Nat} (h : takeBreaks B = (n, []))
    {Z : List Char} (hZ : ∀ y ∈ Z.head?, y ≠ '\r') :
    takeBreaksBack (B.reverse ++ Z) = (n + (takeBreaksBack Z).1, (takeBreaksBack Z).2) := by
  induction B using takeBreaks.induct generalizing n Z with
  | case1 rest m r hr ih =>
    simp only [takeBreaks_lf, hr, Prod.mk.injEq] at h
    obtain ⟨rfl, rfl⟩ := h
    have hlf : takeBreaksBack ('\n' :: Z) = ((takeBreaksBack Z).1 + 1, (takeBreaksBack Z).2) := by
      rw [takeBreaksBack.eq_2 _ fun rest' hZ' => hZ '\r' (by simp [hZ']) rfl]
    rw [List.reverse_cons, List.append_assoc, List.singleton_append, ih hr (by simp), hlf]
    simp only [Prod.mk.injEq, and_true]
    omega
  | case2 rest m r hr ih =>
    simp only [takeBreaks_crlf, hr, Prod.mk.injEq] at h
    obtain ⟨rfl, rfl⟩ := h
    have hcrlf : takeBreaksBack ('\n' :: '\r' :: Z) =
        ((takeBreaksBack Z).1 + 1, (takeBreaksBack Z).2) := rfl
    simp only [List.reverse_cons, List.append_assoc, List.cons_append, List.nil_append]
    rw [ih hr (by simp), hcrlf]
    simp only [Prod.mk.injEq, and_true]
    omega
  | case3 B h1 h2 =>
    rw [takeBreaks.eq_3 _ h1 h2, Prod.mk.injEq] at h
    obtain ⟨rfl, rfl⟩ := h
    simp

theorem takeBreaksBack_split (rs : List Char) :
    ∃ B, rs = B.reverse ++ (takeBreaksBack rs).2 ∧ takeBreaks B = ((takeBreaksBack rs).1, []) ∧
      ∀ y ∈ (takeBreaksBack rs).2.head?, y ≠ '\n' ∧ (y = '\r' → ∀ z ∈ B.head?, z = '\r') := by
  induction rs using takeBreaksBack.induct with
  | case1 rest n r h ih =>
    obtain ⟨B, hB, hBt, hend⟩ := ih
    rw [h] at hB hBt hend
    have e : takeBreaksBack ('\n' :: '\r' :: rest) = (n + 1, r) := by
      rw [takeBreaksBack.eq_1, h]
    rw [e]
    refine ⟨B ++ ['\r', '\n'], by simp [hB], by rw [takeBreaks_append_of_snd_nil hBt]; rfl, ?_⟩
    intro y hy
    refine ⟨(hend y hy).1, fun hyr z hz => ?_⟩
    cases B with
    | nil => simpa using hz.symm
    | cons b B => exact (hend y hy).2 hyr z (by simpa using hz)
  | case2 rest hr n r h ih =>
    obtain ⟨B, hB, hBt, hend⟩ := ih
    rw [h] at hB hBt hend
    have e : takeBreaksBack ('\n' :: rest) = (n + 1, r) := by
      rw [takeBreaksBack.eq_2 _ hr, h]
    rw [e]
    refine ⟨B ++ ['\n'], by simp [hB], by rw [takeBreaks_append_of_snd_nil hBt]; rfl, ?_⟩
    intro y hy
    refine ⟨(hend y hy).1, fun hyr z hz => ?_⟩
    cases B with
    | nil =>
      -- the line feed was read alone, so no carriage return stands before it
      rw [List.reverse_nil, List.nil_append] at hB
      rw [hB] at hr
      cases r with
      | nil => simp at hy
      | cons y' r' =>
        obtain rfl : y' = y := by simpa using hy
        exact (hr r' (by rw [hyr])).elim
    | cons b B => exact (hend y hy).2 hyr z (by simpa using hz)
  | case3 cs h1 h2 =>
    rw [takeBreaksBack.eq_3 _ h1 h2]
    refine ⟨[], rfl, rfl, fun y hy => ⟨?_, fun _ z hz => by simp at hz⟩⟩
    rintro rfl
    cases cs with
    | nil => simp at hy
    | cons c cs =>
      obtain rfl : c = '\n' := by simpa using hy
      exact h2 cs rfl

theorem CrBeforeLf.back_split {cs : List Char} (h : CrBeforeLf cs) :
    ∃ B, cs = (takeBreaksBack cs.reverse).2.reverse ++ B ∧
      takeBreaks B = ((takeBreaksBack cs.reverse).1, []) ∧
      ∀ y ∈ (takeBreaksBack cs.reverse).2.head?, y ≠ '\n' ∧ y ≠ '\r' := by
  obtain ⟨B, hB, hBt, hend⟩ := takeBreaksBack_split cs.reverse
  have hcs : cs = (takeBreaksBack cs.reverse).2.reverse ++ B := by
    simpa using congrArg List.reverse hB
  refine ⟨B, hcs, hBt, fun y hy => ⟨(hend y hy).1, fun hyr => ?_⟩⟩
  -- a carriage return right before the run would need a line feed to start it
  obtain ⟨r', hr'⟩ : ∃ r', (takeBreaksBack cs.reverse).2 = y :: r' := by
    cases hrs : (takeBreaksBack cs.reverse).2 with
    | nil => simp [hrs] at hy
    | cons y' r' =>
      rw [hrs] at hy
      obtain rfl : y' = y := by simpa using hy
      exact ⟨r', rfl⟩
  rw [hr', List.reverse_cons, List.append_assoc, List.singleton_append, hyr] at hcs
  have hsuf : CrBeforeLf ('\r' :: B) := h.of_suffix ⟨_, hcs.symm⟩
  have hlf := hsuf.1 rfl
  have hcr := (hend y hy).2 hyr '\n' hlf
  exact absurd hcr (by decide)

/-- A text normal for blank-line collapsing: one line break at most at each end, never three in a
row. -/
structure BlankNormal (cs : List Char) : Prop where
  front : (takeBreaks cs).1 ≤ 1
  back : (takeBreaksBack cs.reverse).1 ≤ 1
  inner : NoTripleBreak cs

theorem collapseBlankLines_of_blankNormal {cs : List Char} (h : BlankNormal cs) :
    collapseBlankLines (String.ofList cs) = String.ofList cs := by
  unfold collapseBlankLines
  dsimp only
  rw [String.toList_ofList, if_neg (Nat.not_lt.2 h.front), if_neg (Nat.not_lt.2 h.back),
    collapseInnerBreaks_of_noTripleBreak h.inner]

theorem frontPass_spec {cs cs1 : List Char} (h : CrBeforeLf cs)
    (h1 : (if 1 < (takeBreaks cs).1 then '\n' :: (takeBreaks cs).2 else cs) = cs1) :
    CrBeforeLf cs1 ∧ (takeBreaks cs1).1 ≤ 1 := by
  subst h1
  split
  · exact ⟨(h.of_suffix (takeBreaks_suffix cs)).lf_cons, by rw [takeBreaks_lf, takeBreaks_rest]⟩
  · exact ⟨h, by omega⟩

theorem backPass_spec {cs1 cs2 : List Char} (h : CrBeforeLf cs1) (hf : (takeBreaks cs1).1 ≤ 1)
    (h2 : (if 1 < (takeBreaksBack cs1.reverse).1 then
      (takeBreaksBack cs1.reverse).2.reverse ++ ['\n'] else cs1) = cs2) :
    CrBeforeLf cs2 ∧ (takeBreaks cs2).1 ≤ 1 ∧ ∃ P B, cs2 = P ++ B ∧
      (∀ y ∈ P.getLast?, y ≠ '\n' ∧ y ≠ '\r') ∧ (takeBreaks B).2 = [] ∧ (takeBreaks B).1 ≤ 1 := by
  obtain ⟨B, hcs1, hB, hend⟩ := h.back_split
  set r := (takeBreaksBack cs1.reverse).2 with hr
  have hP : ∀ y ∈ r.reverse.getLast?, y ≠ '\n' ∧ y ≠ '\r' := by
    simpa [List.getLast?_reverse] using hend
  subst h2
  split
  · next hback =>
    refine ⟨(hcs1 ▸ h).append_lf, ?_, r.reverse, ['\n'], rfl, hP, rfl, le_refl _⟩
    -- the front is read up to the same character as before
    cases hrr : r.reverse.getLast? with
    | none =>
      rw [List.getLast?_eq_none_iff.1 hrr]
      exact Nat.le_refl _
    | some x =>
      obtain ⟨A, hA⟩ := List.getLast?_eq_some_iff.1 hrr
      obtain ⟨hxn, hxr⟩ := hP x hrr
      rw [hcs1, hA, List.append_assoc, List.singleton_append,
        takeBreaks_append_solid hxn hxr] at hf
      rw [hA, List.append_assoc, List.singleton_append, takeBreaks_append_solid hxn hxr]
      exact hf
  · next hback =>
    exact ⟨h, hf, r.reverse, B, hcs1, hP, by rw [hB], by rw [hB]; omega⟩

theorem takeBreaksBack_collapseInnerBreaks {P B : List Char}
    (hP : ∀ y ∈ P.getLast?, y ≠ '\n' ∧ y ≠ '\r') (hB : (takeBreaks B).2 = [])
    (hB1 : (takeBreaks B).1 ≤ 1) :
    (takeBreaksBack (collapseInnerBreaks (P ++ B)).reverse).1 ≤ 1 := by
  have hBt : takeBreaks B = ((takeBreaks B).1, []) := by rw [← hB]
  cases hlast : P.getLast? with
  | none =>
    rw [List.getLast?_eq_none_iff.1 hlast, List.nil_append,
      collapseInnerBreaks_of_takeBreaks_le_one hBt hB1,
      ← List.append_nil B.reverse, takeBreaksBack_reverse_append hBt (by simp)]
    exact hB1
  | some x =>
    obtain ⟨A, rfl⟩ := List.getLast?_eq_some_iff.1 hlast
    obtain ⟨hxn, hxr⟩ := hP x hlast
    rw [List.append_assoc, List.singleton_append, collapseInnerBreaks_append_cons_solid hxn hxr,
      collapseInnerBreaks_of_takeBreaks_le_one hBt hB1, List.reverse_append, List.reverse_cons,
      List.append_assoc, List.singleton_append,
      takeBreaksBack_reverse_append hBt (by simpa using hxr)]
    rw [takeBreaksBack.eq_3 (x :: _) (by simp [hxn]) (by simp [hxn])]
    simpa using hB1

/-- With every carriage return before a line feed, collapsing blank lines gives a normal text. -/
theorem collapseBlankLines_normal {t : String} (h : CrBeforeLf t.toList) :
    BlankNormal (collapseBlankLines t).toList ∧
      collapseBlankLines (collapseBlankLines t) = collapseBlankLines t := by
  have hnormal : BlankNormal (collapseBlankLines t).toList := by
    unfold collapseBlankLines
    dsimp only
    rw [String.toList_ofList]
    generalize hcs1 : (if 1 < (takeBreaks t.toList).1 then '\n' :: (takeBreaks t.toList).2
      else t.toList) = cs1
    obtain ⟨hcr1, hf1⟩ := frontPass_spec h hcs1
    generalize hcs2 : (if 1 < (takeBreaksBack cs1.reverse).1 then
      (takeBreaksBack cs1.reverse).2.reverse ++ ['\n'] else cs1) = cs2
    obtain ⟨hcr2, hf2, P, B, rfl, hP, hB, hB1⟩ := backPass_spec hcr1 hf1 hcs2
    refine ⟨?_, takeBreaksBack_collapseInnerBreaks hP hB hB1,
      noTripleBreak_collapseInnerBreaks hcr2⟩
    rw [takeBreaks_collapseInnerBreaks hcr2]
    omega
  refine ⟨hnormal, ?_⟩
  have hfix := collapseBlankLines_of_blankNormal hnormal
  rwa [String.ofList_toList] at hfix

theorem collapseBlankLines_normal_crlf :
    CrBeforeLf "\r\n\r\nx\r\n\r\n\r\ny\n\n\n".toList ∧
      BlankNormal (collapseBlankLines "\r\n\r\nx\r\n\r\n\r\ny\n\n\n").toList ∧
      collapseBlankLines (collapseBlankLines "\r\n\r\nx\r\n\r\n\r\ny\n\n\n") =
        collapseBlankLines "\r\n\r\nx\r\n\r\n\r\ny\n\n\n" :=
  ⟨by decide, collapseBlankLines_normal (by decide)⟩

theorem collapseBlankLines_stray_cr :
    collapseBlankLines "\r\r\n\n\nx" = "\r\n\nx" ∧ (takeBreaks "\r\n\nx".toList).1 = 2 ∧
      collapseBlankLines "\r\n\nx" = "\nx" ∧
      collapseBlankLines "a\n\r\r\n\n\nb" = "a\n\r\n\nb" ∧
      (takeBreaks "\n\r\n\nb".toList).1 = 3 := by
  decide +kernel

end HtmlMarkdown
