import HtmlMarkdown.Proofs.LineLength

namespace HtmlMarkdown

def beforeTicks (n : Nat) : List Char → Option (List Char)
  | [] => none
  | c :: rest =>
    if c = '`' then
      if (rest.takeWhile (· == '`')).length + 1 = n then some []
      else (beforeTicks n (rest.dropWhile (· == '`'))).map ((c :: rest.takeWhile (· == '`')) ++ ·)
    else (beforeTicks n rest).map (c :: ·)
termination_by cs => cs.length
decreasing_by
  · have := length_dropWhile_le (· == '`') rest
    simp only [List.length_cons]
    omega
  · simp only [List.length_cons]
    omega

def stripPadding (cs : List Char) : List Char :=
  if cs.head? = some ' ' ∧ cs.getLast? = some ' ' ∧ ∃ x ∈ cs, x ≠ ' ' then (cs.drop 1).dropLast
  else cs

/-- A code span as Markdown reads it from the start of a text, stripped of its padding. -/
def readCodeSpan (s : String) : Option String :=
  let n := (s.toList.takeWhile (· == '`')).length
  if n = 0 then none
  else (beforeTicks n (s.toList.dropWhile (· == '`'))).map fun cs => String.ofList (stripPadding cs)

def closesFence (l : List Char) : Bool := 3 ≤ l.length && l.all (· == '`')

/-- The content of the first fenced code block of a text as Markdown reads it. -/
def readFencedBlock (s : String) : Option String :=
  match (s.toList.splitOn '\n').dropWhile (fun l => !(['`', '`', '`'].isPrefixOf l)) with
  | [] => none
  | _ :: rest => some (String.ofList (['\n'].intercalate (rest.takeWhile fun l => !closesFence l)))

section LongestRun

variable {c : Char} {f : Nat × Nat → Char → Nat × Nat}

def RunStep (c : Char) (f : Nat × Nat → Char → Nat × Nat) : Prop :=
  ∀ b k d, f (b, k) d = if d == c then (max b (k + 1), k + 1) else (b, 0)

theorem RunStep.le_foldl (hf : RunStep c f) (l : List Char) (st : Nat × Nat) :
    st.1 ≤ (l.foldl f st).1 := by
  induction l generalizing st with
  | nil => exact Nat.le_refl _
  | cons d l ih =>
    obtain ⟨b, k⟩ := st
    rw [List.foldl_cons]
    refine Nat.le_trans ?_ (ih _)
    rw [hf]
    split <;> simp

theorem RunStep.foldl_replicate (hf : RunStep c f) (m b k : Nat) :
    (List.replicate (m + 1) c).foldl f (b, k) = (max b (k + m + 1), k + m + 1) := by
  induction m generalizing b k with
  | zero =>
    rw [List.replicate_one, List.foldl_cons, List.foldl_nil, hf, if_pos (beq_self_eq_true c)]
  | succ m ih =>
    rw [List.replicate_succ, List.foldl_cons, hf, if_pos (beq_self_eq_true c), ih]
    simp only [Prod.mk.injEq]
    omega

theorem RunStep.le_of_infix (hf : RunStep c f) {m : Nat} {l : List Char}
    (h : List.replicate m c <:+: l) : m ≤ (l.foldl f (0, 0)).1 := by
  obtain ⟨A, B, rfl⟩ := h
  cases m with
  | zero => exact Nat.zero_le _
  | succ m =>
    rw [List.foldl_append, List.foldl_append]
    refine Nat.le_trans ?_ (hf.le_foldl B _)
    rw [hf.foldl_replicate]
    omega

end LongestRun

theorem le_longestRun_of_infix {s : String} {c : Char} {m : Nat}
    (h : List.replicate m c <:+: s.toList) : m ≤ longestRun s c := by
  unfold longestRun
  exact RunStep.le_of_infix (fun _ _ _ => rfl) h

theorem all_tick_takeWhile (l : List Char) :
    l.takeWhile (· == '`') = List.replicate (l.takeWhile (· == '`')).length '`' :=
  List.eq_replicate_iff.2 ⟨rfl, fun x hx => by simpa using List.mem_takeWhile_imp hx⟩

theorem beforeTicks_fenced {n : Nat} (hn : 0 < n) :
    ∀ (X : List Char), ¬ List.replicate n '`' <:+: X → X.getLast? ≠ some '`' →
      beforeTicks n (X ++ List.replicate n '`') = some X
  | [], _, _ => by
    -- the closing string is read at once
    obtain ⟨m, rfl⟩ : ∃ m, n = m + 1 := ⟨n - 1, by omega⟩
    rw [List.nil_append, List.replicate_succ, beforeTicks, if_pos rfl, List.takeWhile_replicate,
      if_pos (beq_self_eq_true _), List.length_replicate, if_pos rfl]
  | x :: X, hrun, hlast => by
    have hrun' : ¬ List.replicate n '`' <:+: X := fun h => hrun (List.infix_cons h)
    by_cases hx : x = '`'
    · -- a backtick string inside the text: shorter than `n`, and a character other than a
      -- backtick follows it within the text
      subst hx
      set T := X.takeWhile (· == '`') with hT
      set Y := X.dropWhile (· == '`') with hY
      have hXTY : X = T ++ Y := List.takeWhile_append_dropWhile.symm
      have hTrep : T = List.replicate T.length '`' := all_tick_takeWhile X
      have hYne : Y ≠ [] := by
        intro hnil
        apply hlast
        rw [hXTY, hnil, List.append_nil, hTrep, ← List.replicate_succ, List.getLast?_replicate]
        simp
      obtain ⟨y, Y', hyY⟩ := List.exists_cons_of_ne_nil hYne
      have hy : (y == '`') = false := by
        have := List.head?_dropWhile_not (· == '`') X
        rw [← hY, hyY] at this
        simpa using this
      have htake : (X ++ List.replicate n '`').takeWhile (· == '`') = T := by
        rw [hXTY, List.append_assoc, List.takeWhile_append_of_pos (fun a ha => by
          simpa using List.mem_takeWhile_imp ha), hyY, List.cons_append,
          List.takeWhile_cons_of_neg (by simp [hy]), List.append_nil]
      have hdrop :
          (X ++ List.replicate n '`').dropWhile (· == '`') = Y ++ List.replicate n '`' := by
        rw [hXTY, List.append_assoc, List.dropWhile_append_of_pos (fun a ha => by
          simpa using List.mem_takeWhile_imp ha), hyY, List.cons_append,
          List.dropWhile_cons_of_neg (by simp [hy])]
      have hlen : T.length + 1 ≠ n := by
        intro h
        apply hrun
        rw [← h, List.replicate_succ, ← hTrep, hXTY]
        exact (List.prefix_append ('`' :: T) Y).isInfix
      have hYrun : ¬ List.replicate n '`' <:+: Y := by
        intro h
        apply hrun'
        rw [hXTY]
        exact h.trans (List.suffix_append T Y).isInfix
      have hYlast : Y.getLast? ≠ some '`' := by
        intro h
        apply hlast
        rw [hXTY, ← List.cons_append, List.getLast?_append, h]
        rfl
      rw [List.cons_append, beforeTicks, if_pos rfl, htake, if_neg hlen, hdrop,
        beforeTicks_fenced hn Y hYrun hYlast, Option.map_some, hXTY]
      rfl
    · -- a character other than a backtick is passed over
      have hlast' : X.getLast? ≠ some '`' := by
        cases X with
        | nil => simp
        | cons y X => rwa [List.getLast?_cons_cons] at hlast
      rw [List.cons_append, beforeTicks, if_neg hx, beforeTicks_fenced hn X hrun' hlast',
        Option.map_some]
termination_by X => X.length
decreasing_by
  · have := length_dropWhile_le (· == '`') X
    simp only [List.length_cons]
    omega
  · simp only [List.length_cons]
    omega

theorem not_infix_padded {n : Nat} (hn : 0 < n) {C : List Char}
    (h : ¬ List.replicate n '`' <:+: C) : ¬ List.replicate n '`' <:+: ' ' :: (C ++ [' ']) := by
  have hsp : ' ' ∉ List.replicate n '`' := by simp [List.mem_replicate]
  intro hi
  rcases List.infix_cons_iff.1 hi with hp | hi
  · obtain ⟨m, rfl⟩ : ∃ m, n = m + 1 := ⟨n - 1, by omega⟩
    rw [List.replicate_succ, List.cons_prefix_cons] at hp
    exact absurd hp.1 (by decide)
  · rcases List.infix_concat_iff.1 hi with hs | hi
    · rcases List.suffix_concat_iff.1 hs with h0 | ⟨t, ht, -⟩
      · simp only [List.replicate_eq_nil_iff] at h0
        omega
      · exact hsp (ht ▸ List.mem_append_right t (List.mem_singleton_self ' '))
    · exact h hi

theorem readCodeSpan_fenced {n : Nat} (hn : 0 < n) {X : List Char} (hne : X ≠ [])
    (hhead : X.head? ≠ some '`') (hrun : ¬ List.replicate n '`' <:+: X)
    (hlast : X.getLast? ≠ some '`') :
    readCodeSpan (String.ofList (List.replicate n '`' ++ X ++ List.replicate n '`')) =
      some (String.ofList (stripPadding X)) := by
  obtain ⟨x, X', rfl⟩ := List.exists_cons_of_ne_nil hne
  have hx : (x == '`') = false := by simpa using hhead
  have hticks : ∀ a ∈ List.replicate n '`', (a == '`') = true := by
    simp [List.mem_replicate]
  -- the opening string is the fence: the text after it starts with another character
  have htake : (List.replicate n '`' ++ x :: X' ++ List.replicate n '`').takeWhile (· == '`') =
      List.replicate n '`' := by
    rw [List.append_assoc, List.takeWhile_append_of_pos hticks, List.cons_append,
      List.takeWhile_cons_of_neg (by simp [hx]), List.append_nil]
  have hdrop : (List.replicate n '`' ++ x :: X' ++ List.replicate n '`').dropWhile (· == '`') =
      x :: X' ++ List.replicate n '`' := by
    rw [List.append_assoc, List.dropWhile_append_of_pos hticks, List.cons_append,
      List.dropWhile_cons_of_neg (by simp [hx])]
  unfold readCodeSpan
  simp only [String.toList_ofList, htake, hdrop, List.length_replicate]
  rw [if_neg (by omega), beforeTicks_fenced hn _ hrun hlast, Option.map_some]

theorem codeSpan_reads_back {code : String} (hne : code ≠ "")
    (hpad : code.toList.head? = some ' ' → code.toList.getLast? = some ' ' →
      ∀ x ∈ code.toList, x = ' ') :
    readCodeSpan (codeSpan code).render = some code := by
  have hrun : ¬ List.replicate (longestRun code '`' + 1) '`' <:+: code.toList := fun h => by
    have := le_longestRun_of_infix h
    omega
  have hcode : code.toList ≠ [] := by simpa using hne
  have hempty : code.isEmpty = false := by simpa [String.isEmpty_iff] using hne
  have hfence : (String.ofList (List.replicate (longestRun code '`' + 1) '`')).toList =
      List.replicate (longestRun code '`' + 1) '`' := String.toList_ofList
  by_cases hpadded : code.toList.head? = some '`' ∨ code.toList.getLast? = some '`'
  · -- padded by a space on each side, which the reading strips again
    have hrender : (codeSpan code).render = String.ofList
        (List.replicate (longestRun code '`' + 1) '`' ++ ' ' :: (code.toList ++ [' ']) ++
          List.replicate (longestRun code '`' + 1) '`') := by
      rw [String.ext_iff, String.toList_ofList]
      simp [codeSpan, hempty, hpadded, Fragment.render, hfence]
    have hspace : (' ' :: (code.toList ++ [' '])).getLast? = some ' ' := by
      rw [← List.cons_append, List.getLast?_concat]
    have htick : ∃ x ∈ ' ' :: (code.toList ++ [' ']), x ≠ ' ' := by
      rcases hpadded with h | h
      · exact ⟨'`', List.mem_cons_of_mem _ (List.mem_append_left _ (List.mem_of_mem_head? h)),
          by decide⟩
      · exact ⟨'`', List.mem_cons_of_mem _ (List.mem_append_left _ (List.mem_of_mem_getLast? h)),
          by decide⟩
    rw [hrender, readCodeSpan_fenced (by omega) (List.cons_ne_nil _ _) (by simp)
      (not_infix_padded (by omega) hrun) (by rw [hspace]; decide), stripPadding,
      if_pos ⟨rfl, hspace, htick⟩]
    simp
  · -- not padded: the code starts and ends with characters other than backticks
    rw [not_or] at hpadded
    have hrender : (codeSpan code).render = String.ofList
        (List.replicate (longestRun code '`' + 1) '`' ++ code.toList ++
          List.replicate (longestRun code '`' + 1) '`') := by
      rw [String.ext_iff, String.toList_ofList]
      simp [codeSpan, hempty, hpadded, Fragment.render, hfence]
    have hkeep : ¬ (code.toList.head? = some ' ' ∧ code.toList.getLast? = some ' ' ∧
        ∃ x ∈ code.toList, x ≠ ' ') := by
      rintro ⟨hh, hl, x, hx, hne⟩
      exact hne (hpad hh hl x hx)
    rw [hrender, readCodeSpan_fenced (by omega) hcode hpadded.1 hrun hpadded.2, stripPadding,
      if_neg hkeep, String.ofList_toList]

theorem Setting.convertWith_code (s : Setting) (c : Cursor) :
    s.convertWith .code c = .ok (codeSpan c.innerText) :=
  (Setting.convertWith.eq_def s .code c).trans rfl

def NamesAlphanum (o : Option String) : Prop := ∀ l, o = some l → ∀ x ∈ l.toList, x.isAlphanum

theorem NamesAlphanum.none : NamesAlphanum none := fun _ h => nomatch h

theorem NamesAlphanum.or {a b : Option String} (ha : NamesAlphanum a) (hb : NamesAlphanum b) :
    NamesAlphanum (a.or b) := by
  cases a with
  | none => exact hb
  | some x => exact ha

theorem NamesAlphanum.bind {α : Type} {a : Option α} {f : α → Option String}
    (hf : ∀ x, NamesAlphanum (f x)) : NamesAlphanum (a.bind f) := by
  cases a with
  | none => exact .none
  | some x => exact hf x

theorem NamesAlphanum.ite_none (p : Prop) [Decidable p] {a : Option String}
    (ha : NamesAlphanum a) : NamesAlphanum (if p then a else Option.none) := by
  split
  · exact ha
  · exact .none

theorem namesAlphanum_takeWhile (r : List Char) :
    NamesAlphanum (if (r.takeWhile Char.isAlphanum).isEmpty = true then none
      else some (String.ofList (r.takeWhile Char.isAlphanum))) := by
  intro l h
  split at h
  · exact nomatch h
  · obtain rfl := Option.some.inj h
    intro x hx
    rw [String.toList_ofList] at hx
    exact List.mem_takeWhile_imp hx

theorem classLanguage_namesAlphanum (cs : List Char) : NamesAlphanum (classLanguage cs) := by
  induction cs with
  | nil => exact .none
  | cons c rest ih =>
    simp only [classLanguage]
    -- each reading after a prefix, and the `brush:` form, is a run of letters and digits
    have hname := fun (p : Prop) [Decidable p] (r : List Char) =>
      NamesAlphanum.ite_none p (namesAlphanum_takeWhile r)
    refine .or (.or (.or (.or (hname _ _) (hname _ _)) (hname _ _)) ?_) ih
    split
    · exact hname _ _
    · exact .none

theorem lineFeed_not_mem_codeLanguage {o : Options} {c : Cursor}
    (hdef : ∀ l ∈ o.defaultCodeLanguage, '\n' ∉ l.toList)
    (hmap : ∀ p ∈ o.codeLanguages, '\n' ∉ p.2.toList) :
    '\n' ∉ (codeLanguage o c).toList := by
  have hnode : ∀ n, NamesAlphanum (nodeLanguage n) := fun n =>
    NamesAlphanum.bind fun v => classLanguage_namesAlphanum v.toList
  unfold codeLanguage
  dsimp only
  split
  · -- a class hint: its mapping, or the name itself
    rename_i l hl
    unfold Options.codeLanguage
    split
    · rename_i k v hfind
      exact hmap _ (List.mem_of_find?_eq_some hfind)
    · intro hlf
      have hhint := ((hnode c.node).or (NamesAlphanum.bind fun (p : Cursor) => hnode p.node)).or
        (NamesAlphanum.bind hnode) l hl
      exact absurd (hhint '\n' hlf) (by decide)
  · cases hd : o.defaultCodeLanguage with
    | none => simp
    | some v => exact hdef v hd

theorem Setting.convertWith_codeBlock (s : Setting) (c : Cursor) :
    s.convertWith .codeBlock c = .ok (codeBlockFragment s.options c) :=
  (Setting.convertWith.eq_def s .codeBlock c).trans rfl

theorem codeBlockFragment_render {o : Options} (c : Cursor) (hgf : o.githubFlavored = true) :
    (codeBlockFragment o c).render = String.ofList ('\n' :: '\n' ::
      (('`' :: '`' :: '`' :: (codeLanguage o c).toList) ++
        '\n' :: ((trimWhiteEnd c.innerText).toList ++ '\n' :: ['`', '`', '`', '\n']))) := by
  rw [String.ext_iff, String.toList_ofList]
  simp [codeBlockFragment, hgf, Fragment.render]

theorem readFencedBlock_fenced {lang T : List Char} (hlang : '\n' ∉ lang)
    (hT : ∀ l ∈ T.splitOn '\n', closesFence l = false) :
    readFencedBlock (String.ofList ('\n' :: '\n' :: (('`' :: '`' :: '`' :: lang) ++
      '\n' :: (T ++ '\n' :: ['`', '`', '`', '\n'])))) = some (String.ofList T) := by
  have hlf : ∀ R : List Char, ('\n' :: R).splitOn '\n' = [] :: R.splitOn '\n' := fun R =>
    List.splitOn_append_cons_self_of_not_mem (List.not_mem_nil) R
  -- the lines: two blank ones, the opening fence, the lines of the code, the closing fence
  have hlines : (('\n' :: '\n' :: (('`' :: '`' :: '`' :: lang) ++
      '\n' :: (T ++ '\n' :: ['`', '`', '`', '\n']))).splitOn '\n') =
      [] :: [] :: ('`' :: '`' :: '`' :: lang) ::
        (T.splitOn '\n' ++ [['`', '`', '`'], []]) := by
    rw [hlf, hlf, List.splitOn_append_cons_self_of_not_mem (by simp [hlang]),
      List.splitOn_append_cons_self]
    rfl
  unfold readFencedBlock
  rw [String.toList_ofList, hlines, List.dropWhile_cons_of_pos (by decide),
    List.dropWhile_cons_of_pos (by decide), List.dropWhile_cons_of_neg (by simp)]
  dsimp only
  rw [List.takeWhile_append_of_pos (fun l hl => by simp [hT l hl]),
    List.takeWhile_cons_of_neg (by decide), List.append_nil, List.intercalate_splitOn]

theorem codeBlock_reads_back (s : Setting) (d : Cursor) (hgf : s.options.githubFlavored = true)
    (hdef : ∀ l ∈ s.options.defaultCodeLanguage, '\n' ∉ l.toList)
    (hmap : ∀ p ∈ s.options.codeLanguages, '\n' ∉ p.2.toList)
    (hlines : ∀ l ∈ (trimWhiteEnd d.innerText).toList.splitOn '\n', closesFence l = false) :
    ∃ f, s.convertWith .codeBlock d = .ok f ∧
      readFencedBlock f.render = some (trimWhiteEnd d.innerText) := by
  refine ⟨_, Setting.convertWith_codeBlock s d, ?_⟩
  rw [codeBlockFragment_render d hgf,
    readFencedBlock_fenced (lineFeed_not_mem_codeLanguage hdef hmap) hlines, String.ofList_toList]

/-- Code survives encoding: inline code and GitHub code blocks read back as their code. -/
theorem code_survives_encoding (s : Setting) (d : Cursor) :
    (d.innerText ≠ "" →
      (d.innerText.toList.head? = some ' ' → d.innerText.toList.getLast? = some ' ' →
        ∀ x ∈ d.innerText.toList, x = ' ') →
      ∃ f, s.convertWith .code d = .ok f ∧ readCodeSpan f.render = some d.innerText) ∧
    (s.options.githubFlavored = true →
      (∀ l ∈ s.options.defaultCodeLanguage, '\n' ∉ l.toList) →
      (∀ p ∈ s.options.codeLanguages, '\n' ∉ p.2.toList) →
      (∀ l ∈ (trimWhiteEnd d.innerText).toList.splitOn '\n', closesFence l = false) →
      ∃ f, s.convertWith .codeBlock d = .ok f ∧
        readFencedBlock f.render = some (trimWhiteEnd d.innerText)) :=
  ⟨fun hne hpad => ⟨_, Setting.convertWith_code s d, codeSpan_reads_back hne hpad⟩,
    codeBlock_reads_back s d⟩

def tickedCode : Cursor := .root (.element "pre" [] [.text "x ``y"])

def Setting.github : Setting := ⟨{ githubFlavored := true }, Registry.builtIn⟩

theorem Cursor.innerText_of_not_mem {c : Cursor} (h : '&' ∉ c.node.textContent.toList) :
    c.innerText = c.node.textContent := by
  rw [Cursor.innerText, Node.innerText, decodeEntities, decodeReferences_of_not_mem h,
    String.ofList_toList]

theorem tickedCode_innerText : tickedCode.innerText = "x ``y" :=
  Cursor.innerText_of_not_mem (by decide)

theorem code_survives_encoding_ticked :
    (tickedCode.innerText ≠ "" ∧
      (tickedCode.innerText.toList.head? = some ' ' →
        tickedCode.innerText.toList.getLast? = some ' ' → ∀ x ∈ tickedCode.innerText.toList, x = ' ') ∧
      ∃ f, Setting.github.convertWith .code tickedCode = .ok f ∧
        readCodeSpan f.render = some tickedCode.innerText) ∧
    (Setting.github.options.githubFlavored = true ∧
      (∀ l ∈ Setting.github.options.defaultCodeLanguage, '\n' ∉ l.toList) ∧
      (∀ p ∈ Setting.github.options.codeLanguages, '\n' ∉ p.2.toList) ∧
      (∀ l ∈ (trimWhiteEnd tickedCode.innerText).toList.splitOn '\n', closesFence l = false) ∧
      ∃ f, Setting.github.convertWith .codeBlock tickedCode = .ok f ∧
        readFencedBlock f.render = some (trimWhiteEnd tickedCode.innerText)) := by
  have hne : tickedCode.innerText ≠ "" := by rw [tickedCode_innerText]; decide
  have hpad : tickedCode.innerText.toList.head? = some ' ' →
      tickedCode.innerText.toList.getLast? = some ' ' → ∀ x ∈ tickedCode.innerText.toList, x = ' ' := by
    rw [tickedCode_innerText]
    decide
  have hlines : ∀ l ∈ (trimWhiteEnd tickedCode.innerText).toList.splitOn '\n',
      closesFence l = false := by
    rw [tickedCode_innerText]
    decide
  have hdef : ∀ l ∈ Setting.github.options.defaultCodeLanguage, '\n' ∉ l.toList := nofun
  have hmap : ∀ p ∈ Setting.github.options.codeLanguages, '\n' ∉ p.2.toList := nofun
  obtain ⟨hspan, hblock⟩ := code_survives_encoding Setting.github tickedCode
  exact ⟨⟨hne, hpad, hspan hne hpad⟩, ⟨rfl, hdef, hmap, hlines, hblock rfl hdef hmap hlines⟩⟩

theorem code_padding_and_fence_lost :
    (Setting.standard.convertWith .code (.root (.element "code" [] [.text " a "])) =
        .ok (codeSpan " a ") ∧
      readCodeSpan (codeSpan " a ").render = some "a") ∧
    readFencedBlock (codeBlockFragment { githubFlavored := true }
      (.root (.element "pre" [] [.text "```\nx"]))).render = some "" ∧
    readFencedBlock (codeBlockFragment { githubFlavored := true, defaultCodeLanguage := some "y\n```" }
      (.root (.element "pre" [] [.text "x"]))).render = some "" := by
  refine ⟨⟨?_, ?_⟩, by decide +kernel, by decide +kernel⟩
  · rw [Setting.convertWith_code]
    exact congrArg (Except.ok ∘ codeSpan) (Cursor.innerText_of_not_mem (by decide))
  · -- single backticks around the code, whose spaces the reading takes for padding
    have hrender : (codeSpan " a ").render =
        String.ofList (List.replicate 1 '`' ++ [' ', 'a', ' '] ++ List.replicate 1 '`') :=
      rfl
    rw [hrender, readCodeSpan_fenced (by decide) (by simp) (by decide) (by decide) (by decide),
      show stripPadding [' ', 'a', ' '] = ['a'] by simp [stripPadding]]

end HtmlMarkdown
