import HtmlMarkdown.Convert.Service
import HtmlMarkdown.Proofs.Rewrap

namespace HtmlMarkdown

section ErrorOf

variable {ε α β : Type}

/-- The failure of a computation, if it has one. -/
def errorOf : Except ε α → Option ε
  | .ok _ => none
  | .error e => some e

@[simp] theorem errorOf_ok (a : α) : errorOf (Except.ok a : Except ε α) = none := rfl

@[simp] theorem errorOf_error (e : ε) : errorOf (Except.error e : Except ε α) = some e := rfl

@[simp] theorem errorOf_pure (a : α) : errorOf (pure a : Except ε α) = none := rfl

theorem errorOf_bind_of_ok {x : Except ε α} {f : α → Except ε β}
    (hf : ∀ a, errorOf (f a) = none) :
    errorOf (x >>= f) = errorOf x := by
  cases x with
  | ok a => exact hf a
  | error e => rfl

theorem errorOf_bind_ok {a : α} {f : α → Except ε β} :
    errorOf ((Except.ok a : Except ε α) >>= f) = errorOf (f a) := rfl

theorem errorOf_foldlM {l : List α} {f : β → α → Except ε β} {h : α → Option ε}
    (hf : ∀ b a, errorOf (f b a) = h a) (b : β) : errorOf (l.foldlM f b) = l.findSome? h := by
  induction l generalizing b with
  | nil => rfl
  | cons a l ih =>
    rw [List.foldlM_cons, List.findSome?_cons, ← hf b a]
    cases f b a with
    | ok b' => exact ih b'
    | error e => rfl

end ErrorOf

section Wrapping

variable {mode : ShortcodeMode}

theorem chunkLine_ok (hmode : mode ≠ .split) {line : String} (hlf : '\n' ∉ line.toList) :
    chunkLine mode line = .ok (scanChunks (mode != .disabled) line.toList) := by
  simp [chunkLine, hlf, hmode]

theorem wrapLine_ok (hmode : mode ≠ .split) (width : Nat) {line : String}
    (hlf : '\n' ∉ line.toList) :
    ∃ o, wrapLine mode width line = .ok o := by
  -- the content handed to the chunker is a piece of the line
  have hcontent :
      ∀ x ∈ dropEndBy (· == ' ') (line.toList.dropWhile (· == ' ')), x ∈ line.toList := by
    intro x hx
    rw [dropEndBy, List.mem_reverse] at hx
    exact (List.dropWhile_suffix _).subset
      (List.mem_reverse.1 ((List.dropWhile_suffix _).subset hx))
  unfold wrapLine
  dsimp only
  rw [if_neg (by simpa using hlf)]
  split
  · exact ⟨_, rfl⟩
  · rw [chunkLine_ok hmode (by
      rw [String.toList_ofList]
      exact fun h => hlf (hcontent _ h))]
    exact ⟨_, rfl⟩

theorem exists_mapM_eq_ok {γ ε δ : Type} {f : γ → Except ε δ} {l : List γ}
    (h : ∀ a ∈ l, ∃ b, f a = .ok b) : ∃ bs, l.mapM f = .ok bs := by
  induction l with
  | nil => exact ⟨[], rfl⟩
  | cons a l ih =>
    obtain ⟨b, hb⟩ := h a List.mem_cons_self
    obtain ⟨bs, hbs⟩ := ih fun x hx => h x (List.mem_cons_of_mem a hx)
    exact ⟨b :: bs, by simp [List.mapM_cons, hb, hbs]; rfl⟩

theorem wrapText_ok (hmode : mode ≠ .split) (width : Nat) (text : String) :
    ∃ o, wrapText mode width text = .ok o := by
  unfold wrapText
  split
  · exact ⟨_, rfl⟩
  · -- no line holds a line feed, so each one wraps
    have hlines : ∀ l ∈ text.toList.splitOn '\n',
        ∃ o, wrapLine mode width (dropCarriageReturn (String.ofList l)) = .ok o := by
      intro l hl
      exact wrapLine_ok hmode width fun h =>
        (mem_splitOn hl).1 ((dropCarriageReturn_prefix_self l).subset h)
    obtain ⟨os, hos⟩ := exists_mapM_eq_ok hlines
    rw [hos]
    exact ⟨_, rfl⟩

theorem Layout.wrap_ok (hmode : mode ≠ .split) (layout : Layout) (content : String) :
    ∃ o, layout.wrap mode content = .ok o := by
  unfold Layout.wrap
  split
  · exact wrapText_ok hmode _ content
  · exact ⟨_, rfl⟩

theorem flushRun_ok (hmode : mode ≠ .split) (layout : Layout) (content run : String) :
    ∃ o, flushRun layout mode content run = .ok o := by
  unfold flushRun
  dsimp only
  split
  · exact ⟨_, rfl⟩
  · obtain ⟨w, hw⟩ := layout.wrap_ok hmode
      (if layout.canTrim && isWhiteText content then trimWhiteStart run else run)
    rw [hw]
    exact ⟨_, rfl⟩

end Wrapping

def malformedList? (c : Cursor) : Rule → Option ConvertError
  | .paragraph =>
    match c.parentTag? with
    | some "ol" => some (.malformedList "ol")
    | some "ul" => some (.malformedList "ul")
    | _ => none
  | _ => none

/-- The failure of a node by itself: no rule under the raising policy, or a paragraph in a list. -/
def Setting.failure (s : Setting) (c : Cursor) : Option ConvertError :=
  match s.ruleFor c with
  | .error e => some e
  | .ok r => malformedList? c r

theorem Setting.ruleFor_eq_error_iff (s : Setting) (c : Cursor) (e : ConvertError) :
    s.ruleFor c = .error e ↔
      (c.node.isElement && s.options.isPassThrough c.tag) = false ∧
        s.registry.get? c.tag = none ∧ s.options.unknownTags = .raise ∧ e = .unknownTag c.tag := by
  unfold Setting.ruleFor
  split
  · next hpass => simp [hpass]
  · next hpass =>
    simp only [Bool.not_eq_true] at hpass
    cases s.registry.get? c.tag with
    | some r => simp
    | none => cases s.options.unknownTags <;> simp [hpass, eq_comm]

/-- The innermost div of the chain below a node in which each div is its parent's only non-blank
child. -/
def divChainEnd (c : Cursor) : Cursor :=
  match h : c.children.filter (fun d => !d.node.isBlankText) with
  | [d] =>
    have : d ∈ c.children := by
      have : d ∈ c.children.filter (fun d => !d.node.isBlankText) := by simp [h]
      exact (List.mem_filter.1 this).1
    if d.isTag "div" then divChainEnd d else c
  | _ => c
termination_by sizeOf c.node
decreasing_by exact Cursor.sizeOf_lt_of_mem_children this

theorem sizeOf_divChainEnd_le (c : Cursor) : sizeOf (divChainEnd c).node ≤ sizeOf c.node := by
  fun_induction divChainEnd c with
  | case1 c d _ hmem _ ih => exact ih.trans (Cursor.sizeOf_lt_of_mem_children hmem).le
  | case2 => exact le_rfl
  | case3 => exact le_rfl

def Rule.visits (r : Rule) (c : Cursor) : List Cursor :=
  match r with
  | .paragraph | .aside | .blockquote | .listItem | .row | .cell | .emphasis | .strong
  | .strikethrough | .link | .heading | .bypass => c.children
  | .div => (divChainEnd c).children
  | .list => if c.hasAncestor "table" then [] else c.children
  | .table => if hasSpans c.node then [] else c.children
  | .text | .comment | .codeBlock | .code | .image | .lineBreak | .horizontalRule | .passThrough
  | .drop => []

theorem Rule.visits_cases (r : Rule) (c : Cursor) :
    r.visits c = [] ∨ r.visits c = c.children ∨ r.visits c = (divChainEnd c).children := by
  unfold Rule.visits
  split <;> (try split) <;> simp

theorem sizeOf_lt_of_mem_visits {r : Rule} {c d : Cursor} (h : d ∈ r.visits c) :
    sizeOf d.node < sizeOf c.node := by
  rcases r.visits_cases c with hv | hv | hv <;> rw [hv] at h
  · exact absurd h List.not_mem_nil
  · exact Cursor.sizeOf_lt_of_mem_children h
  · exact (Cursor.sizeOf_lt_of_mem_children h).trans_le (sizeOf_divChainEnd_le c)

/-- The nodes conversion visits from a node, in document order. -/
def Setting.visited (s : Setting) (c : Cursor) : List Cursor :=
  c :: match s.ruleFor c with
    | .error _ => []
    | .ok r =>
      if (malformedList? c r).isSome then []
      else (r.visits c).attach.flatMap fun ⟨d, _⟩ => s.visited d
termination_by sizeOf c.node
decreasing_by exact sizeOf_lt_of_mem_visits ‹_›

theorem findSome?_attach {α β : Type} (l : List α) (g : α → Option β) :
    (l.attach.findSome? fun d => g d.1) = l.findSome? g := by
  rw [List.findSome?_subtype (g := g) (fun _ _ => rfl), List.unattach_attach]

theorem findSome?_flatMap {α β γ : Type} (l : List α) (f : α → List β)
    (p : β → Option γ) :
    (l.flatMap f).findSome? p = l.findSome? fun a => (f a).findSome? p := by
  induction l with
  | nil => rfl
  | cons a l ih =>
    rw [List.flatMap_cons, List.findSome?_append, ih, List.findSome?_cons]
    cases (f a).findSome? p <;> rfl

theorem Setting.visited_eq (s : Setting) (c : Cursor) :
    s.visited c = c :: match s.ruleFor c with
      | .error _ => []
      | .ok r => if (malformedList? c r).isSome then [] else (r.visits c).flatMap s.visited := by
  rw [Setting.visited]
  cases s.ruleFor c with
  | error e => rfl
  | ok r =>
    dsimp only
    split
    · rfl
    · rw [List.flatMap_subtype (g := s.visited) (fun _ _ => rfl), List.unattach_attach]

theorem Setting.visited_of_ruleFor {s : Setting} {c : Cursor} {r : Rule} (h : s.ruleFor c = .ok r)
    (hm : malformedList? c r = none) : s.visited c = c :: (r.visits c).flatMap s.visited := by
  rw [Setting.visited_eq, h]
  simp [hm]

theorem Setting.visited_of_malformedList {s : Setting} {c : Cursor} {r : Rule} {e : ConvertError}
    (h : s.ruleFor c = .ok r) (hm : malformedList? c r = some e) : s.visited c = [c] := by
  rw [Setting.visited_eq, h]
  simp [hm]

section Step

variable {s : Setting} {mode : ShortcodeMode}

theorem errorOf_convert_eq (c : Cursor) :
    errorOf (s.convert c) = match s.ruleFor c with
      | .error e => some e
      | .ok r => errorOf (s.convertWith r c) := by
  rw [Setting.convert]
  cases s.ruleFor c with
  | error e => rfl
  | ok r =>
    rw [errorOf_bind_ok]
    exact errorOf_bind_of_ok fun _ => rfl

theorem errorOf_convertChildren (c : Cursor) :
    errorOf (s.convertChildren c) = c.children.findSome? fun d => errorOf (s.convert d) := by
  rw [Setting.convertChildren, errorOf_foldlM (h := fun d => errorOf (s.convert d.1)),
    findSome?_attach c.children fun d => errorOf (s.convert d)]
  rintro acc ⟨d, _⟩
  exact errorOf_bind_of_ok fun _ => rfl

theorem errorOf_formatChildren (hmode : mode ≠ .split) (c : Cursor) (layout : Layout) :
    errorOf (s.formatChildren c layout mode) =
      c.children.findSome? fun d => errorOf (s.convert d) := by
  rw [Setting.formatChildren, errorOf_bind_of_ok ?flush,
    errorOf_foldlM (h := fun d => errorOf (s.convert d.1)),
    findSome?_attach c.children fun d => errorOf (s.convert d)]
  case flush =>
    -- the last flush of the run never fails
    rintro ⟨content, run⟩
    obtain ⟨o, ho⟩ := flushRun_ok hmode layout content run
    dsimp only
    rw [ho]
    rfl
  -- each child fails as its conversion does, since flushing before a block never fails
  rintro ⟨content, run⟩ ⟨d, _⟩
  dsimp only
  rw [errorOf_convert_eq]
  cases s.ruleFor d with
  | error e => rfl
  | ok r =>
    dsimp only
    rw [errorOf_bind_ok]
    cases s.convertWith r d with
    | error e => rfl
    | ok f =>
      rw [errorOf_bind_ok]
      split
      · obtain ⟨o, ho⟩ := flushRun_ok hmode layout content run
        rw [ho]
        rfl
      · rfl

theorem Setting.divContent_of_eq {c d : Cursor} (layout : Layout)
    (h : c.children.filter (fun d => !d.node.isBlankText) = [d]) :
    s.divContent c layout mode =
      if d.isTag "div" then s.divContent d layout mode else s.formatChildren c layout mode := by
  rw [Setting.divContent]
  split
  · next d' h' =>
    rw [h, List.cons.injEq] at h'
    rw [h'.1]
  · next hne => exact absurd h (hne d)

theorem Setting.divContent_of_ne {c : Cursor} (layout : Layout)
    (h : ∀ d, c.children.filter (fun d => !d.node.isBlankText) ≠ [d]) :
    s.divContent c layout mode = s.formatChildren c layout mode := by
  rw [Setting.divContent]
  split
  · next d' h' => exact absurd h' (h d')
  · rfl

theorem errorOf_divContent (hmode : mode ≠ .split) (c : Cursor) (layout : Layout) :
    errorOf (s.divContent c layout mode) =
      (divChainEnd c).children.findSome? fun d => errorOf (s.convert d) := by
  fun_induction divChainEnd c with
  | case1 c d h _ hdiv ih => rw [Setting.divContent_of_eq layout h, if_pos hdiv, ih]
  | case2 c d h _ hdiv =>
    rw [Setting.divContent_of_eq layout h, if_neg hdiv, errorOf_formatChildren hmode]
  | case3 c hne => rw [Setting.divContent_of_ne layout hne, errorOf_formatChildren hmode]

theorem chunkerFor_ne_split {o : Options} (h : o.shortcodes = false) (c : Cursor) :
    chunkerFor o c ≠ .split := by
  simp [chunkerFor, h]

theorem errorOf_convertWith (hs : s.options.shortcodes = false) (r : Rule) (c : Cursor)
    (hm : malformedList? c r = none) :
    errorOf (s.convertWith r c) = (r.visits c).findSome? fun d => errorOf (s.convert d) := by
  have hmode := chunkerFor_ne_split hs c
  cases r with
  | text | comment | codeBlock | code | image | lineBreak | horizontalRule | passThrough | drop =>
    rw [Setting.convertWith]
    rfl
  | aside | row | cell | emphasis | strong | strikethrough | link | heading | bypass =>
    rw [Setting.convertWith, errorOf_bind_of_ok fun _ => rfl, errorOf_convertChildren]
    rfl
  | blockquote | listItem =>
    rw [Setting.convertWith, errorOf_bind_of_ok fun _ => rfl, errorOf_formatChildren hmode]
    rfl
  | paragraph =>
    rw [Setting.convertWith]
    split
    · next h => simp [malformedList?, h] at hm
    · next h => simp [malformedList?, h] at hm
    · rw [errorOf_bind_of_ok fun _ => rfl, errorOf_formatChildren hmode]
      rfl
  | div =>
    rw [Setting.convertWith, errorOf_bind_of_ok ?write, errorOf_divContent hmode]
    case write =>
      -- whichever form the div takes, writing it never fails
      intro content
      split
      · split <;> rfl
      · rfl
    rfl
  | list =>
    rw [Setting.convertWith]
    simp only [Rule.visits]
    split
    · rfl
    · rw [errorOf_bind_of_ok fun _ => rfl, errorOf_convertChildren]
  | table =>
    rw [Setting.convertWith]
    simp only [Rule.visits]
    split
    · rfl
    · rw [errorOf_bind_of_ok fun _ => rfl, errorOf_convertChildren]

theorem convertWith_of_malformedList {r : Rule} {c : Cursor} {e : ConvertError}
    (h : malformedList? c r = some e) : s.convertWith r c = .error e := by
  cases r with
  | paragraph =>
    simp only [malformedList?] at h
    -- under `ol` or `ul` the paragraph rule fails before its children, naming the same list
    split at h <;> cases h
    all_goals simp only [Setting.convertWith, ‹c.parentTag? = _›]
  | _ => simp [malformedList?] at h

end Step

theorem findSome?_congr {α β : Type} {l : List α} {f g : α → Option β}
    (h : ∀ x ∈ l, f x = g x) : l.findSome? f = l.findSome? g := by
  induction l with
  | nil => rfl
  | cons a l ih =>
    rw [List.findSome?_cons, List.findSome?_cons, h a List.mem_cons_self,
      ih fun x hx => h x (List.mem_cons_of_mem a hx)]

/-- Conversion fails exactly at the first visited node, in document order, that fails by itself. -/
theorem Setting.errorOf_convert {s : Setting} (hs : s.options.shortcodes = false) (c : Cursor) :
    errorOf (s.convert c) = (s.visited c).findSome? s.failure := by
  rw [errorOf_convert_eq, Setting.visited_eq, List.findSome?_cons, Setting.failure]
  cases s.ruleFor c with
  | error e => rfl
  | ok r =>
    dsimp only
    cases hm : malformedList? c r with
    | some e => rw [convertWith_of_malformedList hm, errorOf_error]
    | none =>
      -- the node does not fail by itself: each child it converts fails as its visits do
      rw [Option.isSome_none, if_neg Bool.false_ne_true, errorOf_convertWith hs r c hm,
        findSome?_flatMap]
      exact findSome?_congr fun d hd => Setting.errorOf_convert hs d
termination_by sizeOf c.node
decreasing_by exact sizeOf_lt_of_mem_visits hd

end HtmlMarkdown
