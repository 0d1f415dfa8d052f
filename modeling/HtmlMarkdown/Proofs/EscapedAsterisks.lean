import HtmlMarkdown.Proofs.Readings

namespace HtmlMarkdown

def nextParity (odd : Bool) (c : Char) : Bool := if c = '\\' then !odd else false

def runParity (odd : Bool) (cs : List Char) : Bool := cs.foldl nextParity odd

/-- For each asterisk of a text, whether an odd run of backslashes stands before it. -/
def asteriskParities (odd : Bool) : List Char → List Bool
  | [] => []
  | c :: rest => (if c = '*' then [odd] else []) ++ asteriskParities (nextParity odd c) rest

/-- The number of backslashes that end a text. -/
def trailingBackslashes (cs : List Char) : Nat := (cs.reverse.takeWhile (· == '\\')).length

def asteriskReading : Reading Bool Bool := ⟨nextParity, fun odd c => if c = '*' then [odd] else []⟩

theorem asteriskParities_eq_reports (b : Bool) (cs : List Char) :
    asteriskParities b cs = asteriskReading.reports b cs := by
  induction cs generalizing b with
  | nil => rfl
  | cons c cs ih =>
    rw [asteriskParities, ih]
    rfl

theorem runParity_eq_after (b : Bool) (cs : List Char) :
    runParity b cs = asteriskReading.after b cs := rfl

@[simp] theorem runParity_nil (b : Bool) : runParity b [] = b := rfl

@[simp] theorem runParity_cons (b : Bool) (c : Char) (cs : List Char) :
    runParity b (c :: cs) = runParity (nextParity b c) cs := rfl

theorem runParity_append (b : Bool) (u v : List Char) :
    runParity b (u ++ v) = runParity (runParity b u) v :=
  List.foldl_append

theorem trailingBackslashes_append_backslash (u : List Char) :
    trailingBackslashes (u ++ ['\\']) = trailingBackslashes u + 1 := by
  simp [trailingBackslashes]

theorem trailingBackslashes_append_of_ne {c : Char} (hc : c ≠ '\\') (u : List Char) :
    trailingBackslashes (u ++ [c]) = 0 := by
  simp [trailingBackslashes, hc]

theorem runParity_false (u : List Char) :
    runParity false u = decide (trailingBackslashes u % 2 = 1) := by
  -- the run is read off the end, so the induction adds characters at the end
  obtain ⟨r, rfl⟩ : ∃ r, u = r.reverse := ⟨u.reverse, (List.reverse_reverse u).symm⟩
  induction r with
  | nil => rfl
  | cons c r ih =>
    rw [List.reverse_cons, runParity_append, ih, runParity_cons, runParity_nil, nextParity]
    by_cases hc : c = '\\'
    · rw [if_pos hc, hc, trailingBackslashes_append_backslash]
      rcases Nat.mod_two_eq_zero_or_one (trailingBackslashes r.reverse) with h | h <;>
        simp [h, Nat.add_mod]
    · rw [if_neg hc, trailingBackslashes_append_of_ne hc]
      rfl

theorem mem_asteriskParities {b x : Bool} {cs : List Char} :
    x ∈ asteriskParities b cs ↔ ∃ u v, cs = u ++ '*' :: v ∧ x = runParity b u := by
  rw [asteriskParities_eq_reports, Reading.mem_reports]
  constructor
  · rintro ⟨u, c, v, rfl, hx⟩
    -- only an asterisk reports
    by_cases hc : c = '*'
    · subst hc
      simp only [asteriskReading, if_pos, List.mem_singleton] at hx
      exact ⟨u, v, rfl, hx⟩
    · simp [asteriskReading, hc] at hx
  · rintro ⟨u, v, rfl, rfl⟩
    exact ⟨u, '*', v, rfl, by simp [asteriskReading, runParity_eq_after]⟩

theorem forall_mem_asteriskParities {P : Bool → Prop} {l : List Char} :
    (∀ x ∈ asteriskParities false l, P x) ↔
      ∀ u v, l = u ++ '*' :: v → P (decide (trailingBackslashes u % 2 = 1)) := by
  constructor
  · intro h u v huv
    rw [← runParity_false]
    exact h _ (mem_asteriskParities.2 ⟨u, v, huv, rfl⟩)
  · intro h x hx
    obtain ⟨u, v, huv, rfl⟩ := mem_asteriskParities.1 hx
    rw [runParity_false]
    exact h u v huv

def ReadAlike (u w : List Char) : Prop :=
  ∀ b, asteriskParities b u = asteriskParities b w ∧ runParity b u = runParity b w

instance (u w : List Char) : Decidable (ReadAlike u w) :=
  inferInstanceAs (Decidable (∀ b, asteriskParities b u = asteriskParities b w ∧
    runParity b u = runParity b w))

theorem readAlike_iff {u w : List Char} : ReadAlike u w ↔ asteriskReading.Alike u w := by
  simp only [ReadAlike, Reading.Alike, asteriskParities_eq_reports, runParity_eq_after]

theorem asteriskParities_escapeAsterisks (b : Bool) (cs : List Char) :
    asteriskParities b (replaceSeq '*' [] ['\\', '*'] cs) = (asteriskParities b cs).map (!·) := by
  rw [replaceSeq_nil]
  induction cs generalizing b with
  | nil => rfl
  | cons c rest ih =>
    by_cases hc : c = '*'
    · subst hc
      simp [asteriskParities, nextParity, ih]
    · simp [asteriskParities, hc, ih]

theorem StockEscape.keeps_asteriskReading {r : StockEscape} (hr : r ≠ .asterisk) :
    asteriskReading.Keeps r := by
  have hb : asteriskReading.SilentBackslash := fun _ => rfl
  have hfresh : ∀ c, c ≠ '\\' → c ≠ '*' → asteriskReading.Fresh c := fun c hb hs _ _ => by
    simp [asteriskReading, nextParity, hb, hs]
  intro b cs
  cases r with
  | plusItem | minusItem | leadingUnderscore =>
    exact Reading.reports_escapeStart hb (hfresh _ (by decide) (by decide)) b cs
  | looseUnderscore =>
    exact Reading.reports_escapeLooseUnderscores hb (hfresh _ (by decide) (by decide)) b cs
  | asterisk => exact absurd rfl hr
  | spaceUnderscore | doubleUnderscore | backslashPair | backslashDollar | backslashPercent
  | backslashAmpersand | backslashDot | backslashBracket | backslashBrace =>
    exact Reading.reports_replaceSeq (readAlike_iff.1 (by decide)) b cs

theorem escape_stock_toList (rs : List StockEscape) (s : String) :
    (escape (rs.map .stock) s).toList = rs.foldl (fun cs r => r.rewrite cs) s.toList := by
  induction rs generalizing s with
  | nil => rfl
  | cons r rs ih =>
    show (escape (rs.map .stock) (String.ofList (r.rewrite s.toList))).toList =
      rs.foldl (fun cs r => r.rewrite cs) (r.rewrite s.toList)
    rw [ih, String.toList_ofList]

theorem StockEscape.all_eq : StockEscape.all =
    [.plusItem, .minusItem, .looseUnderscore, .spaceUnderscore, .leadingUnderscore,
      .doubleUnderscore, .backslashPair, .backslashDollar, .backslashPercent,
      .backslashAmpersand, .backslashDot, .backslashBracket, .backslashBrace] ++ [.asterisk] :=
  rfl

theorem asteriskParities_foldl_rewrite {rs : List StockEscape} (hrs : .asterisk ∉ rs)
    (b : Bool) (cs : List Char) :
    asteriskParities b (rs.foldl (fun cs r => r.rewrite cs) cs) = asteriskParities b cs := by
  rw [asteriskParities_eq_reports, asteriskParities_eq_reports]
  exact Reading.reports_foldl_rewrite
    (fun r hr => StockEscape.keeps_asteriskReading fun h => hrs (h ▸ hr)) b cs

theorem escape_asterisk_parities (t : String) :
    asteriskParities false (escape defaultEscapeRules t).toList =
      (asteriskParities false t.toList).map (!·) := by
  rw [defaultEscapeRules, escape_stock_toList, StockEscape.all_eq, List.foldl_append,
    List.foldl_cons, List.foldl_nil, StockEscape.rewrite, asteriskParities_escapeAsterisks,
    asteriskParities_foldl_rewrite (by decide)]

/-- Every asterisk of escaped text is escaped exactly when every asterisk stood after an even run.
-/
theorem escape_escapes_asterisks_iff (t : String) :
    (∀ u v, (escape defaultEscapeRules t).toList = u ++ '*' :: v →
        trailingBackslashes u % 2 = 1) ↔
      ∀ u v, t.toList = u ++ '*' :: v → trailingBackslashes u % 2 = 0 := by
  have hout := forall_mem_asteriskParities (P := fun x => x = true)
    (l := (escape defaultEscapeRules t).toList)
  have hin := forall_mem_asteriskParities (P := fun x => x = false) (l := t.toList)
  simp only [decide_eq_true_eq, decide_eq_false_iff_not, Nat.mod_two_ne_one] at hout hin
  rw [← hout, ← hin, escape_asterisk_parities, List.forall_mem_map]
  simp

theorem escape_backslash_asterisk_open :
    ¬ ∀ u v, (escape defaultEscapeRules "\\*").toList = u ++ '*' :: v →
      trailingBackslashes u % 2 = 1 := by
  intro h
  have hout : (escape defaultEscapeRules "\\*").toList = ['\\', '\\'] ++ '*' :: [] := by
    decide +kernel
  exact absurd (h _ _ hout) (by decide)

end HtmlMarkdown
