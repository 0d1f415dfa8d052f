import HtmlMarkdown.Proofs.EscapedAsterisks
import HtmlMarkdown.Proofs.InlineSpans
import HtmlMarkdown.Proofs.PipeTables

namespace HtmlMarkdown

/-- A run of backslashes as far as it has been read: its parity, and whether it holds one. -/
structure BackslashRun where
  odd : Bool
  nonempty : Bool
  deriving DecidableEq, Repr

namespace BackslashRun

def empty : BackslashRun := ⟨false, false⟩

def next (r : BackslashRun) (c : Char) : BackslashRun :=
  if c = '\\' then ⟨!r.odd, true⟩ else empty

def after (r : BackslashRun) (cs : List Char) : BackslashRun := cs.foldl next r

def escapedBefore (r : BackslashRun) (b : Char) : BackslashRun :=
  if b = '[' ∧ r.nonempty = true then ⟨!r.odd, true⟩ else r

@[simp] theorem after_nil (r : BackslashRun) : r.after [] = r := rfl

@[simp] theorem after_cons (r : BackslashRun) (c : Char) (cs : List Char) :
    r.after (c :: cs) = (r.next c).after cs := rfl

theorem after_append (r : BackslashRun) (u v : List Char) :
    r.after (u ++ v) = (r.after u).after v :=
  List.foldl_append

theorem empty_after (u : List Char) :
    empty.after u =
      ⟨decide (trailingBackslashes u % 2 = 1), decide (0 < trailingBackslashes u)⟩ := by
  -- the run is read off the end, so the induction adds characters at the end
  induction u using List.reverseRecOn with
  | nil => rfl
  | append_singleton u c ih =>
    rw [after_append, ih, after_cons, after_nil, next]
    by_cases hc : c = '\\'
    · rw [if_pos hc, hc, trailingBackslashes_append_backslash]
      rcases Nat.mod_two_eq_zero_or_one (trailingBackslashes u) with h | h <;>
        simp [h, Nat.add_mod]
    · rw [if_neg hc, trailingBackslashes_append_of_ne hc]
      rfl

theorem after_of_not_mem {u : List Char} (h : '\\' ∉ u) (r : BackslashRun) (hu : u ≠ []) :
    r.after u = empty := by
  induction u generalizing r with
  | nil => exact absurd rfl hu
  | cons c u ih =>
    have hc : c ≠ '\\' := fun e => h (e ▸ List.mem_cons_self)
    rw [after_cons, next, if_neg hc]
    cases u with
    | nil => rfl
    | cons d u => exact ih (fun h' => h (List.mem_cons_of_mem c h')) _ (List.cons_ne_nil _ _)

end BackslashRun

def isBracket (c : Char) : Bool := c == '[' || c == ']'

/-- Each bracket of a text with the run of backslashes before it, reading from the run `r`. -/
def bracketRuns (r : BackslashRun) : List Char → List (Char × BackslashRun)
  | [] => []
  | c :: rest => (if isBracket c then [(c, r)] else []) ++ bracketRuns (r.next c) rest

def bracketReading : Reading BackslashRun (Char × BackslashRun) :=
  ⟨BackslashRun.next, fun r c => if isBracket c then [(c, r)] else []⟩

theorem bracketRuns_eq_reports (r : BackslashRun) (cs : List Char) :
    bracketRuns r cs = bracketReading.reports r cs := by
  induction cs generalizing r with
  | nil => rfl
  | cons c cs ih =>
    rw [bracketRuns, ih]
    rfl

theorem BackslashRun.after_eq_after (r : BackslashRun) (cs : List Char) :
    r.after cs = bracketReading.after r cs := rfl

theorem bracketRuns_append (r : BackslashRun) (u v : List Char) :
    bracketRuns r (u ++ v) = bracketRuns r u ++ bracketRuns (r.after u) v := by
  simp only [bracketRuns_eq_reports, BackslashRun.after_eq_after, Reading.reports_append]

theorem bracketRuns_of_forall {u : List Char} (h : ∀ c ∈ u, isBracket c = false)
    (r : BackslashRun) : bracketRuns r u = [] := by
  induction u generalizing r with
  | nil => rfl
  | cons c u ih =>
    rw [bracketRuns, if_neg (by simp [h c List.mem_cons_self]),
      ih fun d hd => h d (List.mem_cons_of_mem c hd)]
    rfl

theorem mem_bracketRuns {r s : BackslashRun} {b : Char} {cs : List Char} :
    (b, s) ∈ bracketRuns r cs ↔ ∃ u w, cs = u ++ b :: w ∧ isBracket b = true ∧ s = r.after u := by
  rw [bracketRuns_eq_reports, Reading.mem_reports]
  constructor
  · rintro ⟨u, c, w, rfl, hp⟩
    -- only a bracket reports, with itself and the run before it
    by_cases hc : isBracket c = true
    · simp only [bracketReading, hc, if_true, List.mem_singleton, Prod.mk.injEq] at hp
      obtain ⟨rfl, rfl⟩ := hp
      exact ⟨u, w, rfl, hc, rfl⟩
    · simp [bracketReading, hc] at hp
  · rintro ⟨u, w, rfl, hb, rfl⟩
    exact ⟨u, b, w, rfl, by simp [bracketReading, hb, BackslashRun.after_eq_after]⟩

/-- Every bracket of a text stands after an odd run of backslashes. -/
def BracketsEscaped (cs : List Char) : Prop :=
  ∀ u b w, cs = u ++ b :: w → isBracket b = true → trailingBackslashes u % 2 = 1

def BracketRunsEscapable (cs : List Char) : Prop :=
  (∀ u w, cs = u ++ '[' :: w → trailingBackslashes u % 2 = 0 ∧ 0 < trailingBackslashes u) ∧
    ∀ u w, cs = u ++ ']' :: w → trailingBackslashes u % 2 = 1

theorem bracketsEscaped_iff {cs : List Char} :
    BracketsEscaped cs ↔ ∀ p ∈ bracketRuns .empty cs, p.2.odd = true := by
  constructor
  · rintro h ⟨b, s⟩ hp
    obtain ⟨u, w, rfl, hb, rfl⟩ := mem_bracketRuns.1 hp
    simpa [BackslashRun.empty_after] using h u b w rfl hb
  · intro h u b w huw hb
    simpa [BackslashRun.empty_after] using h _ (mem_bracketRuns.2 ⟨u, w, huw, hb, rfl⟩)

theorem bracketRunsEscapable_iff {cs : List Char} :
    BracketRunsEscapable cs ↔ ∀ p ∈ bracketRuns .empty cs, (p.2.escapedBefore p.1).odd = true := by
  have hread : ∀ u : List Char, ∀ b : Char, ((BackslashRun.empty.after u).escapedBefore b).odd =
      if b = '[' then decide (0 < trailingBackslashes u ∧ trailingBackslashes u % 2 = 0)
      else decide (trailingBackslashes u % 2 = 1) := by
    intro u b
    rw [BackslashRun.empty_after, BackslashRun.escapedBefore]
    by_cases hb : b = '['
    · by_cases hpos : 0 < trailingBackslashes u
      · rcases Nat.mod_two_eq_zero_or_one (trailingBackslashes u) with h | h <;> simp [hb, hpos, h]
      · have hzero : trailingBackslashes u = 0 := by omega
        simp [hb, hzero]
    · simp [hb]
  constructor
  · rintro ⟨hopen, hclose⟩ ⟨b, s⟩ hp
    obtain ⟨u, w, rfl, hb, rfl⟩ := mem_bracketRuns.1 hp
    simp only [isBracket, Bool.or_eq_true, beq_iff_eq] at hb
    rw [hread]
    rcases hb with rfl | rfl
    · simpa [and_comm] using hopen u w rfl
    · simpa using hclose u w rfl
  · intro h
    refine ⟨fun u w huw => ?_, fun u w huw => ?_⟩
    · have := h _ (mem_bracketRuns.2 ⟨u, w, huw, rfl, rfl⟩)
      rw [hread] at this
      simpa [and_comm] using this
    · have := h _ (mem_bracketRuns.2 ⟨u, w, huw, rfl, rfl⟩)
      rw [hread] at this
      simpa using this

def RunsAlike (u w : List Char) : Prop :=
  ∀ o n : Bool, bracketRuns ⟨o, n⟩ u = bracketRuns ⟨o, n⟩ w ∧
    BackslashRun.after ⟨o, n⟩ u = BackslashRun.after ⟨o, n⟩ w

instance (u w : List Char) : Decidable (RunsAlike u w) :=
  inferInstanceAs (Decidable (∀ o n : Bool, bracketRuns ⟨o, n⟩ u = bracketRuns ⟨o, n⟩ w ∧
    BackslashRun.after ⟨o, n⟩ u = BackslashRun.after ⟨o, n⟩ w))

theorem runsAlike_iff {u w : List Char} : RunsAlike u w ↔ bracketReading.Alike u w := by
  simp only [RunsAlike, Reading.Alike, bracketRuns_eq_reports, BackslashRun.after_eq_after]
  exact ⟨fun h r => h r.odd r.nonempty, fun h o n => h ⟨o, n⟩⟩

theorem bracketRuns_escapeBracket (r : BackslashRun) (cs : List Char)
    (hr : r.nonempty = true → cs.head? ≠ some '[') :
    bracketRuns r (replaceSeq '\\' ['['] ['\\', '\\', '['] cs) =
      (bracketRuns r cs).map fun p => (p.1, p.2.escapedBefore p.1) := by
  induction cs using replaceSeq.induct '\\' ['['] generalizing r with
  | case1 => rw [replaceSeq]; rfl
  | case2 c rest hm ih =>
    obtain ⟨rfl, hpre⟩ : c = '\\' ∧ ['['].isPrefixOf rest = true := by simpa using hm
    obtain ⟨tail, rfl⟩ := List.isPrefixOf_iff_prefix.1 hpre
    rw [List.drop_left] at ih
    have hafter : r.after ['\\', '\\', '['] = .empty := by simp [BackslashRun.next]
    rw [replaceSeq_match, bracketRuns_append, hafter, ih .empty (by simp [BackslashRun.empty])]
    simp [bracketRuns, BackslashRun.next, BackslashRun.escapedBefore, isBracket]
  | case3 c rest hm ih =>
    rw [replaceSeq, if_neg hm]
    have hnext : (r.next c).nonempty = true → rest.head? ≠ some '[' := by
      intro hn hhead
      have hc : c = '\\' := by
        by_contra hc
        simp [BackslashRun.next, hc, BackslashRun.empty] at hn
      apply hm
      cases rest with
      | nil => cases hhead
      | cons d rest =>
        obtain rfl : d = '[' := by simpa using hhead
        simp [hc]
    simp only [bracketRuns, ih (r.next c) hnext, List.map_append]
    congr 1
    -- an opening bracket that the rule passes over has no run before it
    by_cases hc : isBracket c = true
    · have hkeep : r.escapedBefore c = r := by
        rw [BackslashRun.escapedBefore, if_neg]
        rintro ⟨rfl, hn⟩
        exact hr hn rfl
      simp [hc, hkeep]
    · simp [hc]

theorem StockEscape.keeps_bracketReading {e : StockEscape} (he : e ≠ .backslashBracket) :
    bracketReading.Keeps e := by
  have hb : bracketReading.SilentBackslash := fun _ => by simp [bracketReading, isBracket]
  have hfresh : ∀ c, c ≠ '\\' → isBracket c = false → bracketReading.Fresh c :=
    fun c hb hs _ _ => by simp [bracketReading, BackslashRun.next, hb, hs]
  intro r cs
  cases e with
  | plusItem | minusItem | leadingUnderscore =>
    exact Reading.reports_escapeStart hb (hfresh _ (by decide) (by decide)) r cs
  | looseUnderscore =>
    exact Reading.reports_escapeLooseUnderscores hb (hfresh _ (by decide) (by decide)) r cs
  | backslashBracket => exact absurd rfl he
  | spaceUnderscore | doubleUnderscore | backslashPair | backslashDollar | backslashPercent
  | backslashAmpersand | backslashDot | backslashBrace | asterisk =>
    exact Reading.reports_replaceSeq (runsAlike_iff.1 (by decide)) r cs

theorem bracketRuns_foldl_rewrite {es : List StockEscape} (hes : .backslashBracket ∉ es)
    (r : BackslashRun) (cs : List Char) :
    bracketRuns r (es.foldl (fun cs e => e.rewrite cs) cs) = bracketRuns r cs := by
  rw [bracketRuns_eq_reports, bracketRuns_eq_reports]
  exact Reading.reports_foldl_rewrite
    (fun e he => StockEscape.keeps_bracketReading fun h => hes (h ▸ he)) r cs

theorem StockEscape.all_eq_around_bracket : StockEscape.all =
    ([.plusItem, .minusItem, .looseUnderscore, .spaceUnderscore, .leadingUnderscore,
      .doubleUnderscore, .backslashPair, .backslashDollar, .backslashPercent,
      .backslashAmpersand, .backslashDot] : List StockEscape) ++
      StockEscape.backslashBracket :: [.backslashBrace, .asterisk] :=
  rfl

theorem escape_bracketRuns (t : String) :
    bracketRuns .empty (escape defaultEscapeRules t).toList =
      (bracketRuns .empty t.toList).map fun p => (p.1, p.2.escapedBefore p.1) := by
  rw [defaultEscapeRules, escape_stock_toList, StockEscape.all_eq_around_bracket,
    List.foldl_append, List.foldl_cons, bracketRuns_foldl_rewrite (by decide), StockEscape.rewrite,
    bracketRuns_escapeBracket _ _ (by simp [BackslashRun.empty]),
    bracketRuns_foldl_rewrite (by decide)]

theorem escape_brackets_escaped_iff (t : String) :
    BracketsEscaped (escape defaultEscapeRules t).toList ↔ BracketRunsEscapable t.toList := by
  rw [bracketsEscaped_iff, bracketRunsEscapable_iff, escape_bracketRuns, List.forall_mem_map]

theorem bracketRuns_trimWhite (s : String) :
    bracketRuns .empty (trimWhite s).toList = bracketRuns .empty s.toList := by
  have hwhite : ∀ c, isWhite c = true → c ≠ '\\' ∧ isBracket c = false := by
    intro c hc
    refine ⟨fun e => absurd (e ▸ hc) (by decide), ?_⟩
    simp only [isBracket, Bool.or_eq_false_iff, beq_eq_false_iff_ne]
    exact ⟨fun e => absurd (e ▸ hc) (by decide), fun e => absurd (e ▸ hc) (by decide)⟩
  -- the text is its leading white space, its name and its trailing white space
  set D := s.toList.dropWhile isWhite
  have hs : s.toList = s.toList.takeWhile isWhite ++ D := List.takeWhile_append_dropWhile.symm
  have hD : D = (D.reverse.dropWhile isWhite).reverse ++ (D.reverse.takeWhile isWhite).reverse := by
    rw [← List.reverse_append, List.takeWhile_append_dropWhile, List.reverse_reverse]
  have hlead : ∀ c ∈ s.toList.takeWhile isWhite, isWhite c = true :=
    fun c hc => List.mem_takeWhile_imp hc
  have htrail : ∀ c ∈ (D.reverse.takeWhile isWhite).reverse, isWhite c = true :=
    fun c hc => List.mem_takeWhile_imp (List.mem_reverse.1 hc)
  have hstart : BackslashRun.empty.after (s.toList.takeWhile isWhite) = .empty := by
    by_cases hnil : s.toList.takeWhile isWhite = []
    · rw [hnil]
      rfl
    · exact BackslashRun.after_of_not_mem (fun hm => (hwhite _ (hlead _ hm)).1 rfl) _ hnil
  conv_rhs => rw [hs, hD]
  rw [bracketRuns_append, bracketRuns_of_forall (fun c hc => (hwhite c (hlead c hc)).2), hstart,
    bracketRuns_append, bracketRuns_of_forall (fun c hc => (hwhite c (htrail c hc)).2),
    List.nil_append, List.append_nil]
  simp only [trimWhite, stripWhite, dropWhiteEnd, dropWhite, String.toList_ofList]
  rfl

theorem Setting.convertWith_link (s : Setting) (c : Cursor) :
    s.convertWith .link c = (do
      let X ← s.convertChildren c
      pure (linkFragment s.options c X)) :=
  (Setting.convertWith.eq_def s .link c).trans rfl

theorem linkFragment_content {o : Options} {c : Cursor} {converted : String}
    (h : (linkFragment o c converted).pre = "[") :
    (linkFragment o c converted).content = trimWhite converted := by
  unfold linkFragment at h ⊢
  dsimp only at h ⊢
  split_ifs at h ⊢ <;> simp_all [Fragment.ofContent]

theorem Setting.convertChildren_text {s : Setting} (hreg : s.registry = Registry.builtIn)
    {c : Cursor} {v : String} (hc : c.node.children = [.text v])
    (hv : (Node.text v).isBlankText = false) :
    s.convertChildren c = .ok (escape s.options.escapeRules (decodeText v)) :=
  Setting.convertChildren_of_text hreg hc fun d hd => by
    rw [textMarkdown, hd]
    simp only [hv, Bool.false_eq_true, if_false]
    rfl

/-- A link writes every bracket of its name as a literal one exactly when each opening bracket stood
after a non-empty even run of backslashes and each closing one after an odd run. -/
theorem link_name_brackets_escaped_iff {s : Setting} (hreg : s.registry = Registry.builtIn)
    (ho : s.options.escapeRules = defaultEscapeRules) {c : Cursor} {v : String}
    (hc : c.node.children = [.text v]) (hv : (Node.text v).isBlankText = false) {f : Fragment}
    (hf : s.convertWith .link c = .ok f) (hlink : f.pre = "[") :
    BracketsEscaped f.content.toList ↔ BracketRunsEscapable (decodeText v).toList := by
  rw [Setting.convertWith_link, Setting.convertChildren_text hreg hc hv, ho] at hf
  obtain rfl : linkFragment s.options c (escape defaultEscapeRules (decodeText v)) = f :=
    Except.ok.inj hf
  rw [linkFragment_content hlink, bracketsEscaped_iff, bracketRuns_trimWhite, ← bracketsEscaped_iff,
    escape_brackets_escaped_iff]

def doubledBackslashLink : Cursor :=
  .root (.element "a" [("href", "x")] [.text "a\\\\[b"])

theorem link_name_doubled_backslash :
    Setting.standard.convertWith .link doubledBackslashLink = .ok ⟨"[", "a\\\\\\\\\\[b", "](x)"⟩ ∧
      (BracketsEscaped "a\\\\\\\\\\[b".toList ↔ BracketRunsEscapable (decodeText "a\\\\[b").toList) := by
  have hf : Setting.standard.convertWith .link doubledBackslashLink =
      .ok ⟨"[", "a\\\\\\\\\\[b", "](x)"⟩ := by
    rw [Setting.convertWith_link, Setting.convertChildren_text rfl rfl (by decide)]
    exact congrArg Except.ok (by decide +kernel)
  exact ⟨hf, link_name_brackets_escaped_iff rfl rfl rfl (by decide) hf rfl⟩

def bareBracketLink : Cursor :=
  .root (.element "a" [("href", "x")] [.text "a[b"])

theorem link_name_bare_bracket :
    Setting.standard.convertWith .link bareBracketLink = .ok ⟨"[", "a[b", "](x)"⟩ ∧
      ¬ BracketsEscaped "a[b".toList := by
  refine ⟨?_, fun h => absurd (h ['a'] '[' ['b'] rfl rfl) (by decide)⟩
  rw [Setting.convertWith_link, Setting.convertChildren_text rfl rfl (by decide)]
  exact congrArg Except.ok (by decide +kernel)

end HtmlMarkdown
