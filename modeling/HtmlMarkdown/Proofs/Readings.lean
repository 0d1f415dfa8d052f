import HtmlMarkdown.Proofs.ParsedText

namespace HtmlMarkdown

/-- A reading of text from left to right: the next state, and what a character reports. -/
structure Reading (σ β : Type) where
  next : σ → Char → σ
  report : σ → Char → List β

namespace Reading

variable {σ β : Type} (R : Reading σ β)

/-- What the characters of a text report, in order, reading from the state `s`. -/
def reports (s : σ) : List Char → List β
  | [] => []
  | c :: rest => R.report s c ++ reports (R.next s c) rest

def after (s : σ) (cs : List Char) : σ := cs.foldl R.next s

@[simp] theorem reports_nil (s : σ) : R.reports s [] = [] := rfl

@[simp] theorem reports_cons (s : σ) (c : Char) (cs : List Char) :
    R.reports s (c :: cs) = R.report s c ++ R.reports (R.next s c) cs := rfl

@[simp] theorem after_nil (s : σ) : R.after s [] = s := rfl

@[simp] theorem after_cons (s : σ) (c : Char) (cs : List Char) :
    R.after s (c :: cs) = R.after (R.next s c) cs := rfl

theorem after_append (s : σ) (u v : List Char) : R.after s (u ++ v) = R.after (R.after s u) v :=
  List.foldl_append

theorem reports_append (s : σ) (u v : List Char) :
    R.reports s (u ++ v) = R.reports s u ++ R.reports (R.after s u) v := by
  induction u generalizing s with
  | nil => rfl
  | cons c u ih => simp [ih]

theorem mem_reports {x : β} {s : σ} {cs : List Char} :
    x ∈ R.reports s cs ↔ ∃ u c v, cs = u ++ c :: v ∧ x ∈ R.report (R.after s u) c := by
  induction cs generalizing s with
  | nil => simp
  | cons d rest ih =>
    rw [reports_cons, List.mem_append, ih]
    constructor
    · rintro (hx | ⟨u, c, v, rfl, hx⟩)
      · exact ⟨[], d, rest, rfl, hx⟩
      · exact ⟨d :: u, c, v, rfl, hx⟩
    · rintro ⟨u, c, v, huv, hx⟩
      cases u with
      | nil =>
        obtain ⟨rfl, rfl⟩ := List.cons.inj huv
        exact .inl hx
      | cons e u =>
        obtain ⟨rfl, rfl⟩ := List.cons.inj huv
        exact .inr ⟨u, c, v, rfl, hx⟩

/-- Two pieces of text that report the same and leave the same state from every state. -/
def Alike (u w : List Char) : Prop :=
  ∀ s, R.reports s u = R.reports s w ∧ R.after s u = R.after s w

variable {R}

theorem Alike.append {u w : List Char} (h : R.Alike u w) (s : σ) (v : List Char) :
    R.reports s (u ++ v) = R.reports s (w ++ v) := by
  rw [reports_append, reports_append, (h s).1, (h s).2]

/-- Replacing each occurrence of a piece of text by one that reads alike keeps the reading. -/
theorem reports_replaceSeq {p : Char} {ps rep : List Char} (h : R.Alike (p :: ps) rep) (s : σ)
    (cs : List Char) : R.reports s (replaceSeq p ps rep cs) = R.reports s cs := by
  induction cs using replaceSeq.induct p ps generalizing s with
  | case1 => rw [replaceSeq]
  | case2 c rest hm ih =>
    -- an occurrence: the rest of the text goes on with the tail of the pattern
    obtain ⟨rfl, hpre⟩ : c = p ∧ ps.isPrefixOf rest = true := by simpa using hm
    obtain ⟨tail, rfl⟩ := List.isPrefixOf_iff_prefix.1 hpre
    rw [List.drop_left] at ih
    rw [replaceSeq_match, ← h.append, reports_append, ih, ← reports_append]
    rfl
  | case3 c rest hm ih =>
    rw [replaceSeq, if_neg hm, reports_cons, reports_cons, ih]

variable (R)

/-- A character that reports the same and leaves the same state from every state. -/
def Fresh (c : Char) : Prop := ∀ s s', R.report s c = R.report s' c ∧ R.next s c = R.next s' c

def SilentBackslash : Prop := ∀ s, R.report s '\\' = []

variable {R}

theorem reports_backslash_cons (hb : R.SilentBackslash) {c : Char} (hc : R.Fresh c) (s : σ)
    (rest : List Char) : R.reports s ('\\' :: c :: rest) = R.reports s (c :: rest) := by
  rw [reports_cons, reports_cons, reports_cons, hb, List.nil_append, (hc _ s).1, (hc _ s).2]

theorem reports_escapeStart (hb : R.SilentBackslash) {c : Char} {st : List Char} (hc : R.Fresh c)
    (s : σ) (cs : List Char) : R.reports s (escapeStart (c :: st) cs) = R.reports s cs := by
  unfold escapeStart
  split
  · rename_i hpre
    obtain ⟨rest, rfl⟩ : ∃ rest, cs = c :: rest := by
      cases cs with
      | nil => simp at hpre
      | cons d rest =>
        simp only [List.isPrefixOf_cons_cons, Bool.and_eq_true, beq_iff_eq] at hpre
        exact ⟨rest, by rw [hpre.1]⟩
    exact reports_backslash_cons hb hc s rest
  · rfl

theorem reports_escapeLooseUnderscores (hb : R.SilentBackslash) (hu : R.Fresh '_') (s : σ)
    (cs : List Char) : R.reports s (escapeLooseUnderscores cs) = R.reports s cs := by
  induction cs using escapeLooseUnderscores.induct generalizing s with
  | case1 => rfl
  | case2 d rest hd ih => simp only [escapeLooseUnderscores, if_pos hd, reports_cons, ih]
  | case3 d rest hd ih =>
    rw [escapeLooseUnderscores, if_neg hd, reports_backslash_cons hb hu]
    simp only [reports_cons, ih]
  | case4 c rest hc ih =>
    -- no underscore with a character after it: the character is passed on
    rw [escapeLooseUnderscores.eq_def]
    split
    · rename_i heq
      exact absurd heq (List.cons_ne_nil _ _)
    · rename_i d r heq
      obtain ⟨rfl, rfl⟩ := List.cons.inj heq
      exact (hc d r rfl rfl).elim
    · rename_i heq
      obtain ⟨rfl, rfl⟩ := List.cons.inj heq
      rw [reports_cons, reports_cons, ih]

variable (R)

/-- A built-in rule keeps a reading when no text reads otherwise after it, from any state. -/
def Keeps (r : StockEscape) : Prop := ∀ s cs, R.reports s (r.rewrite cs) = R.reports s cs

variable {R}

theorem reports_foldl_rewrite {rs : List StockEscape} (h : ∀ r ∈ rs, R.Keeps r) (s : σ)
    (cs : List Char) : R.reports s (rs.foldl (fun cs r => r.rewrite cs) cs) = R.reports s cs := by
  induction rs generalizing cs with
  | nil => rfl
  | cons r rs ih =>
    rw [List.foldl_cons, ih (fun r' hr' => h r' (List.mem_cons_of_mem r hr')),
      h r List.mem_cons_self]

end Reading

end HtmlMarkdown
