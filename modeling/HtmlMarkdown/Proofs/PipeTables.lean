import HtmlMarkdown.Proofs.LineLength
import HtmlMarkdown.Proofs.Padding

namespace HtmlMarkdown

def pipeLine (cells : List String) : String := "| " ++ " | ".intercalate cells ++ " |\n"

def rowLine : List String → String
  | [] => ""
  | cells@(_ :: _) => pipeLine cells

def headedLines : List (List String) → String
  | [] => ""
  | [] :: rows => headedLines rows
  | cells@(_ :: _) :: rows =>
    pipeLine cells ++ pipeRow "---" cells.length ++ String.join (rows.map rowLine)

def rowOut (cells : List String) (header : Bool) : String :=
  rowLine cells ++ if header && !cells.isEmpty then pipeRow "---" cells.length else ""

def Node.isLeafText (n : Node) : Bool := n.isText && n.name == "#text" && n.children.isEmpty

def Node.isBlankLeaf (n : Node) : Bool := n.isLeafText && n.isBlankText

def Node.isPipeCell (n : Node) : Bool :=
  (n.isTag "td" || n.isTag "th") && n.children.all Node.isLeafText

def Node.isPipeRow (n : Node) : Bool :=
  n.isTag "tr" && n.children.all fun ch => ch.isPipeCell || ch.isBlankLeaf

def Node.isPipeSection (n : Node) : Bool :=
  (n.isTag "thead" || n.isTag "tbody" || n.isTag "tfoot") &&
    n.children.all fun ch => ch.isPipeRow || ch.isBlankLeaf

/-- A pipe table: a `table` of rows, sections and blank texts, with no cell spanning rows or
columns. -/
def Node.isPipeTable (n : Node) : Bool :=
  n.isTag "table" && !hasSpans n &&
    n.children.all fun ch => ch.isPipeRow || ch.isPipeSection || ch.isBlankLeaf

def Cursor.cells (r : Cursor) : List Cursor := r.children.filter fun d => d.isTag "td" || d.isTag "th"

def Cursor.rowsOf (d : Cursor) : List (Cursor × List Nat) :=
  if d.isTag "tr" then [(d, [d.index])]
  else (d.children.filter (·.isTag "tr")).map fun r => (r, [d.index, r.index])

def Cursor.tableRowsAt (t : Cursor) : List (Cursor × List Nat) := t.children.flatMap Cursor.rowsOf

/-- The rows of a table in document order: its own rows and the rows of its sections. -/
def Cursor.tableRows (t : Cursor) : List Cursor := t.tableRowsAt.map (·.1)

theorem Cursor.tag_of_isTag {c : Cursor} {t : String} (h : c.node.isTag t = true) : c.tag = t := by
  simp only [Node.isTag, Bool.and_eq_true, beq_iff_eq] at h
  exact h.2

theorem Node.isTag_of_isTag_ne {n : Node} {a b : String} (h : n.isTag a = true) (hne : a ≠ b) :
    n.isTag b = false := by
  simp only [Node.isTag, Bool.and_eq_true, beq_iff_eq] at h
  simp [Node.isTag, h.2, hne]

theorem Node.isLeafText_of_isBlankLeaf {n : Node} (h : n.isBlankLeaf = true) :
    n.isLeafText = true := by
  simp only [Node.isBlankLeaf, Bool.and_eq_true] at h
  exact h.1

theorem Node.isTag_of_isLeafText {n : Node} (h : n.isLeafText = true) (t : String) :
    n.isTag t = false := by
  simp only [Node.isLeafText, Bool.and_eq_true, Node.isText, beq_iff_eq] at h
  simp [Node.isTag, Node.isElement, h.1.1]

theorem Node.children_of_isLeafText {n : Node} (h : n.isLeafText = true) : n.children = [] := by
  simp only [Node.isLeafText, Bool.and_eq_true, List.isEmpty_iff] at h
  exact h.2

theorem Cursor.children_of_isLeafText {d : Cursor} (h : d.node.isLeafText = true) :
    d.children = [] := by
  simp [Cursor.children, Node.children_of_isLeafText h]

theorem Node.findDescendant?_of_isLeafText {n : Node} (h : n.isLeafText = true)
    (p : Node → Bool) : n.findDescendant? p = none := by
  rw [Node.findDescendant?_eq, Node.children_of_isLeafText h]
  rfl

theorem Node.noTag_of_isLeafText {n : Node} (h : n.isLeafText = true) (t : String) :
    n.isTag t = false ∧ n.findDescendant? (·.isTag t) = none :=
  ⟨Node.isTag_of_isLeafText h t, Node.findDescendant?_of_isLeafText h _⟩

theorem Node.isTag_tr_of_isPipeRow {n : Node} (h : n.isPipeRow = true) : n.isTag "tr" = true := by
  simp only [Node.isPipeRow, Bool.and_eq_true] at h
  exact h.1

theorem Node.isTag_of_isPipeSection {n : Node} (h : n.isPipeSection = true) {t : String}
    (ht : t ≠ "thead" ∧ t ≠ "tbody" ∧ t ≠ "tfoot") : n.isTag t = false := by
  simp only [Node.isPipeSection, Bool.and_eq_true, Bool.or_eq_true] at h
  rcases h.1 with (h | h) | h
  · exact Node.isTag_of_isTag_ne h (Ne.symm ht.1)
  · exact Node.isTag_of_isTag_ne h (Ne.symm ht.2.1)
  · exact Node.isTag_of_isTag_ne h (Ne.symm ht.2.2)

theorem Node.isTag_tr_of_isPipeSection {n : Node} (h : n.isPipeSection = true) :
    n.isTag "tr" = false :=
  Node.isTag_of_isPipeSection h (by decide)

theorem Node.isTag_table_of_isPipeTable {n : Node} (h : n.isPipeTable = true) :
    n.isTag "table" = true := by
  simp only [Node.isPipeTable, Bool.and_eq_true] at h
  exact h.1.1

theorem Node.pipeSection_children {n : Node} (h : n.isPipeSection = true) :
    ∀ d ∈ n.children, d.isPipeRow = true ∨ d.isBlankLeaf = true := by
  simp only [Node.isPipeSection, Bool.and_eq_true, List.all_eq_true, Bool.or_eq_true] at h
  exact h.2

theorem Node.pipeTable_children {n : Node} (h : n.isPipeTable = true) :
    ∀ d ∈ n.children,
      (d.isPipeRow = true ∨ d.isPipeSection = true) ∨ d.isBlankLeaf = true := by
  simp only [Node.isPipeTable, Bool.and_eq_true, List.all_eq_true, Bool.or_eq_true] at h
  exact h.2

theorem join_map_cell_cons (c : String) (cs : List String) :
    String.join ((c :: cs).map fun x => " " ++ x ++ " |") =
      " " ++ " | ".intercalate (c :: cs) ++ " |" := by
  induction cs generalizing c with
  | nil => simp
  | cons d cs ih =>
    rw [List.map_cons, String.join_cons, ih, String.intercalate_cons_cons]
    simp only [String.append_assoc]
    rfl

theorem join_map_of_filter {α : Type} {l : List α} {q : α → Bool} {g f : α → String}
    (h : ∀ x ∈ l, g x = if q x then f x else "") :
    String.join (l.map g) = String.join ((l.filter q).map f) := by
  induction l with
  | nil => rfl
  | cons x l ih =>
    rw [List.map_cons, String.join_cons, h x List.mem_cons_self,
      ih fun y hy => h y (List.mem_cons_of_mem x hy), List.filter_cons]
    cases q x <;> simp

theorem rowOut_false (cells : List String) : rowOut cells false = rowLine cells := by
  simp [rowOut]

theorem rowOut_nil (header : Bool) : rowOut [] header = "" := by
  cases header <;> rfl

theorem headedLines_cons {cells : List String} (hc : cells ≠ []) (rows : List (List String)) :
    headedLines (cells :: rows) = rowOut cells true ++ String.join (rows.map rowLine) := by
  obtain ⟨c, cs, rfl⟩ := List.exists_cons_of_ne_nil hc
  simp [headedLines, rowOut, rowLine, String.append_assoc]

theorem Setting.convertWith_cell (s : Setting) (c : Cursor) :
    s.convertWith .cell c = (do pure (cellFragment (← s.convertChildren c))) :=
  (Setting.convertWith.eq_def s .cell c).trans rfl

theorem Setting.convertWith_row (s : Setting) (c : Cursor) :
    s.convertWith .row c = (do pure (rowFragment s.options c (← s.convertChildren c))) :=
  (Setting.convertWith.eq_def s .row c).trans rfl

theorem Setting.convertWith_bypass (s : Setting) (c : Cursor) :
    s.convertWith .bypass c = (do pure (Fragment.ofContent (← s.convertChildren c))) :=
  (Setting.convertWith.eq_def s .bypass c).trans rfl

theorem Setting.convertWith_table (s : Setting) (c : Cursor) :
    s.convertWith .table c = if hasSpans c.node then pure (.ofContent c.node.outerHtml)
      else (do pure ⟨tablePrefix s.options c, ← s.convertChildren c, "\n"⟩) :=
  (Setting.convertWith.eq_def s .table c).trans rfl

theorem Cursor.node_mem_children {c d : Cursor} (hd : d ∈ c.children) :
    d.node ∈ c.node.children :=
  c.map_node_children ▸ List.mem_map_of_mem hd

theorem Setting.convertChildren_of_forall {s : Setting} {c : Cursor} {g : Cursor → String}
    (h : ∀ d ∈ c.children, s.convert d = .ok (g d)) :
    s.convertChildren c = .ok (String.join (c.children.map g)) := by
  rw [Setting.convertChildren_eq]
  -- the fold carries the Markdown of the children before
  suffices hfold : ∀ (l : List Cursor) (acc : String), (∀ d ∈ l, s.convert d = .ok (g d)) →
      l.foldlM (fun acc d => do pure (acc ++ (← s.convert d))) acc =
        .ok (acc ++ String.join (l.map g)) by
    simpa using hfold c.children "" h
  intro l
  induction l with
  | nil =>
    intro acc _
    simp [pure, Except.pure]
  | cons d l ih =>
    intro acc hl
    have hrest := ih (acc ++ g d) fun x hx => hl x (List.mem_cons_of_mem d hx)
    rw [List.foldlM_cons, hl d List.mem_cons_self]
    simp only [bind, Except.bind, pure, Except.pure] at hrest ⊢
    rw [hrest, List.map_cons, String.join_cons, String.append_assoc]

theorem Setting.ruleFor_of_isTag {s : Setting} (hreg : s.registry = Registry.builtIn)
    (hpass : s.options.passThroughTags = []) {c : Cursor} {t : String} {r : Rule}
    (htag : c.node.isTag t = true) (hget : Registry.builtIn.get? t = some r) :
    s.ruleFor c = .ok r :=
  Setting.ruleFor_of_get? hpass (by rw [hreg, Cursor.tag_of_isTag htag, hget])

theorem Setting.convert_leafText {s : Setting} (hreg : s.registry = Registry.builtIn) {d : Cursor}
    (h : d.node.isLeafText = true) : s.convert d = .ok (textMarkdown s.options d) := by
  simp only [Node.isLeafText, Bool.and_eq_true, Node.isText, beq_iff_eq] at h
  have hel : d.node.isElement = false := by simp [Node.isElement, h.1.1]
  have hrule : s.ruleFor d = .ok .text := by
    simp [Setting.ruleFor, hel, Cursor.tag, h.1.2, hreg, Registry.builtIn_get?_text]
  rw [Setting.convert_of_ok hrule (Setting.convertWith_text _ _)]
  simp [Fragment.render, Fragment.ofContent]

theorem Setting.convertChildren_of_text {s : Setting} (hreg : s.registry = Registry.builtIn)
    {c : Cursor} {v t : String} (hc : c.node.children = [.text v])
    (ht : ∀ d : Cursor, d.node = .text v → textMarkdown s.options d = t) :
    s.convertChildren c = .ok t := by
  have hkids : ∀ d ∈ c.children, d.node = .text v := fun d hd => by
    have := Cursor.node_mem_children hd
    rw [hc] at this
    exact List.mem_singleton.1 this
  have hjoin := Setting.convertChildren_of_forall (s := s) (c := c) (g := fun _ => t) fun d hd => by
    rw [Setting.convert_leafText hreg (by rw [hkids d hd]; rfl), ht d (hkids d hd)]
  rw [hjoin]
  simp [Cursor.children, hc]

theorem textMarkdown_blankLeaf {o : Options} {d : Cursor} (h : d.node.isBlankLeaf = true)
    {t : String} (ht : t ∈ blankTextParents) (hp : d.parentTag? = some t) :
    textMarkdown o d = "" := by
  simp only [Node.isBlankLeaf, Bool.and_eq_true] at h
  simp [textMarkdown, h.2, hp, ht]

theorem Setting.convert_blankLeaf {s : Setting} (hreg : s.registry = Registry.builtIn)
    {c d : Cursor} (hd : d ∈ c.children) (h : d.node.isBlankLeaf = true)
    (hc : c.tag ∈ blankTextParents) :
    s.convert d = .ok "" := by
  rw [Setting.convert_leafText hreg (Node.isLeafText_of_isBlankLeaf h),
    textMarkdown_blankLeaf h hc (Cursor.parentTag?_of_mem_children hd)]

def Setting.cellContent (s : Setting) (d : Cursor) : String :=
  (cellFragment (String.join (d.children.map (textMarkdown s.options)))).content

theorem Setting.convert_pipeCell {s : Setting} (hreg : s.registry = Registry.builtIn)
    (hpass : s.options.passThroughTags = []) {d : Cursor} (h : d.node.isPipeCell = true) :
    s.convert d = .ok (" " ++ s.cellContent d ++ " |") := by
  simp only [Node.isPipeCell, Bool.and_eq_true, Bool.or_eq_true, List.all_eq_true] at h
  obtain ⟨htag, hkids⟩ := h
  have hrule : s.ruleFor d = .ok .cell := by
    rcases htag with htag | htag
    · exact Setting.ruleFor_of_isTag hreg hpass htag (by decide)
    · exact Setting.ruleFor_of_isTag hreg hpass htag (by decide)
  have hchildren :
      s.convertChildren d = .ok (String.join (d.children.map (textMarkdown s.options))) :=
    Setting.convertChildren_of_forall fun e he =>
      Setting.convert_leafText hreg (hkids e.node (Cursor.node_mem_children he))
  rw [Setting.convert_of_ok hrule (by rw [Setting.convertWith_cell, hchildren]; rfl)]
  rfl

theorem trimWhiteEnd_append_pipe (x : String) : trimWhiteEnd (x ++ " |") = x ++ " |" := by
  have hrev : (x ++ " |").toList.reverse = '|' :: ' ' :: x.toList.reverse := by simp
  rw [trimWhiteEnd, dropWhiteEnd, hrev, List.dropWhile_cons_of_neg (by decide), ← hrev,
    List.reverse_reverse, String.ofList_toList]

theorem isWhiteText_append_pipe (x : String) : isWhiteText (x ++ " |") = false := by
  simp [isWhiteText, isWhite]

theorem Cursor.length_cells (r : Cursor) :
    r.cells.length = (r.node.children.filter fun n => n.isTag "td" || n.isTag "th").length := by
  rw [← r.map_node_children, List.filter_map, List.length_map]
  rfl

theorem rowFragment_render (o : Options) (r : Cursor) (cs : List String)
    (hlen : r.cells.length = cs.length) :
    (rowFragment o r (String.join (cs.map fun x => " " ++ x ++ " |"))).render =
      rowOut cs (r.node.children.any (·.isTag "th") || isImplicitHeader o r) := by
  cases cs with
  | nil =>
    simp [rowFragment, rowOut, rowLine, trimWhiteEnd, dropWhiteEnd, isWhiteText, Fragment.render]
  | cons c cs =>
    rw [join_map_cell_cons, rowFragment]
    simp only [trimWhiteEnd_append_pipe, isWhiteText_append_pipe, Bool.false_eq_true, if_false]
    rw [← Cursor.length_cells, hlen]
    -- the literals of the fragment join into those of the line
    have hbar : ∀ x : String, "|" ++ (" " ++ x) = "| " ++ x := fun x => by
      rw [← String.append_assoc]
      rfl
    have hend : ∀ x : String, " |" ++ ("\n" ++ x) = " |\n" ++ x := fun x => by
      rw [← String.append_assoc]
      rfl
    cases (r.node.children.any (·.isTag "th") || isImplicitHeader o r) <;>
      simp [Fragment.render, rowOut, rowLine, pipeLine, String.append_assoc, hbar, hend]

/-- What a row writes: the line of its cells, and the delimiter line after a header row. -/
def Setting.rowText (s : Setting) (r : Cursor) : String :=
  rowOut (r.cells.map s.cellContent)
    (r.node.children.any (·.isTag "th") || isImplicitHeader s.options r)

theorem Setting.convert_pipeRow {s : Setting} (hreg : s.registry = Registry.builtIn)
    (hpass : s.options.passThroughTags = []) {r : Cursor} (h : r.node.isPipeRow = true) :
    s.convert r = .ok (s.rowText r) := by
  simp only [Node.isPipeRow, Bool.and_eq_true, Bool.or_eq_true, List.all_eq_true] at h
  obtain ⟨htag, hkids⟩ := h
  have hrule : s.ruleFor r = .ok .row := Setting.ruleFor_of_isTag hreg hpass htag (by decide)
  have htr : r.tag = "tr" := Cursor.tag_of_isTag htag
  -- a cell writes its content between pipes, a blank text nothing
  have hchild : ∀ d ∈ r.children, s.convert d =
      .ok (if d.isTag "td" || d.isTag "th" then " " ++ s.cellContent d ++ " |" else "") := by
    intro d hd
    rcases hkids d.node (Cursor.node_mem_children hd) with hc | hb
    · have hcell : (d.isTag "td" || d.isTag "th") = true := by
        simp only [Node.isPipeCell, Bool.and_eq_true] at hc
        exact hc.1
      rw [if_pos hcell]
      exact Setting.convert_pipeCell hreg hpass hc
    · have hleaf := Node.isLeafText_of_isBlankLeaf hb
      rw [if_neg (by simp [Cursor.isTag, Node.isTag_of_isLeafText hleaf])]
      exact Setting.convert_blankLeaf hreg hd hb (by rw [htr]; decide)
  have hX := Setting.convertChildren_of_forall hchild
  have hcells : String.join ((r.children.filter fun d => d.isTag "td" || d.isTag "th").map
      fun d => " " ++ s.cellContent d ++ " |") =
      String.join ((r.cells.map s.cellContent).map fun x => " " ++ x ++ " |") := by
    rw [List.map_map]
    rfl
  rw [join_map_of_filter (fun d _ => rfl), hcells] at hX
  rw [Setting.convert_of_ok hrule (by rw [Setting.convertWith_row, hX]; rfl),
    rowFragment_render _ _ _ (List.length_map _).symm]
  rfl

theorem Setting.convert_pipeSection {s : Setting} (hreg : s.registry = Registry.builtIn)
    (hpass : s.options.passThroughTags = []) {d : Cursor} (h : d.node.isPipeSection = true) :
    s.convert d = .ok (String.join ((d.children.filter (·.isTag "tr")).map s.rowText)) := by
  simp only [Node.isPipeSection, Bool.and_eq_true, Bool.or_eq_true, List.all_eq_true] at h
  obtain ⟨htag, hkids⟩ := h
  -- the three sections are bypassed, and blank text in them writes nothing
  have hsection : Registry.builtIn.get? d.tag = some .bypass ∧ d.tag ∈ blankTextParents := by
    rcases htag with (h | h) | h <;> rw [Cursor.tag_of_isTag h] <;> decide
  have hrule : s.ruleFor d = .ok .bypass :=
    Setting.ruleFor_of_get? hpass (by rw [hreg]; exact hsection.1)
  -- a row writes its lines, a blank text nothing
  have hchild : ∀ r ∈ d.children,
      s.convert r = .ok (if r.isTag "tr" then s.rowText r else "") := by
    intro r hr
    rcases hkids r.node (Cursor.node_mem_children hr) with hrow | hb
    · have htr : r.isTag "tr" = true := Node.isTag_tr_of_isPipeRow hrow
      rw [if_pos htr]
      exact Setting.convert_pipeRow hreg hpass hrow
    · have hleaf := Node.isLeafText_of_isBlankLeaf hb
      rw [if_neg (by simp [Cursor.isTag, Node.isTag_of_isLeafText hleaf])]
      exact Setting.convert_blankLeaf hreg hr hb hsection.2
  have hX := Setting.convertChildren_of_forall hchild
  rw [join_map_of_filter (fun r _ => rfl)] at hX
  rw [Setting.convert_of_ok hrule (by rw [Setting.convertWith_bypass, hX]; rfl)]
  simp [Fragment.render, Fragment.ofContent]

theorem join_map_flatMap {α β : Type} (l : List α) (f : α → List β) (g : β → String) :
    String.join ((l.flatMap f).map g) = String.join (l.map fun x => String.join ((f x).map g)) := by
  induction l with
  | nil => rfl
  | cons x l ih =>
    rw [List.flatMap_cons, List.map_append, String.join_append, ih, List.map_cons, String.join_cons]

theorem Setting.convertChildren_pipeTable {s : Setting} (hreg : s.registry = Registry.builtIn)
    (hpass : s.options.passThroughTags = []) {t : Cursor} (h : t.node.isPipeTable = true) :
    s.convertChildren t = .ok (String.join (t.tableRows.map s.rowText)) := by
  simp only [Node.isPipeTable, Bool.and_eq_true, Bool.or_eq_true, List.all_eq_true] at h
  obtain ⟨⟨htag, -⟩, hkids⟩ := h
  have htable : t.tag = "table" := Cursor.tag_of_isTag htag
  -- each child writes the rows it holds
  have hchild : ∀ d ∈ t.children,
      s.convert d = .ok (String.join (d.rowsOf.map fun x => s.rowText x.1)) := by
    intro d hd
    rcases hkids d.node (Cursor.node_mem_children hd) with (hrow | hsec) | hb
    · have htr : d.isTag "tr" = true := Node.isTag_tr_of_isPipeRow hrow
      rw [Cursor.rowsOf, if_pos htr, Setting.convert_pipeRow hreg hpass hrow]
      simp
    · rw [Cursor.rowsOf, if_neg (by simp [Cursor.isTag, Node.isTag_tr_of_isPipeSection hsec]),
        Setting.convert_pipeSection hreg hpass hsec, List.map_map]
      rfl
    · have hleaf := Node.isLeafText_of_isBlankLeaf hb
      rw [Cursor.rowsOf, if_neg (by simp [Cursor.isTag, Node.isTag_of_isLeafText hleaf]),
        Cursor.children_of_isLeafText hleaf,
        Setting.convert_blankLeaf hreg hd hb (by rw [htable]; decide)]
      rfl
  rw [Setting.convertChildren_of_forall hchild, Cursor.tableRows, Cursor.tableRowsAt,
    List.map_map, join_map_flatMap]
  rfl

theorem Setting.convert_pipeTable_rows {s : Setting} (hreg : s.registry = Registry.builtIn)
    (hpass : s.options.passThroughTags = []) {t : Cursor} (h : t.node.isPipeTable = true) :
    s.convert t =
      .ok (tablePrefix s.options t ++ String.join (t.tableRows.map s.rowText) ++ "\n") := by
  have hparts := h
  simp only [Node.isPipeTable, Bool.and_eq_true, Bool.not_eq_true'] at hparts
  obtain ⟨⟨htag, hspans⟩, -⟩ := hparts
  have hrule : s.ruleFor t = .ok .table := Setting.ruleFor_of_isTag hreg hpass htag (by decide)
  rw [Setting.convert_of_ok hrule (by
    rw [Setting.convertWith_table, if_neg (by simp [hspans]),
      Setting.convertChildren_pipeTable hreg hpass h]
    rfl)]
  rfl

/-- The cursors of trees put under `N`, reached by way of `P`, from position `i` on. -/
def placed (N : Node) (P : List Step) (i : Nat) (cs : List Node) : List Cursor :=
  (cs.zipIdx i).map fun x => ⟨x.1, ⟨N, x.2⟩ :: P⟩

theorem placed_nil (N : Node) (P : List Step) (i : Nat) : placed N P i [] = [] := rfl

theorem placed_cons (N : Node) (P : List Step) (i : Nat) (c : Node) (cs : List Node) :
    placed N P i (c :: cs) = ⟨c, ⟨N, i⟩ :: P⟩ :: placed N P (i + 1) cs := by
  simp [placed, List.zipIdx_cons]

theorem Cursor.children_eq_placed (c : Cursor) :
    c.children = placed c.node c.path 0 c.node.children :=
  rfl

theorem map_index_placed (N : Node) (P : List Step) (i : Nat) (cs : List Node) :
    (placed N P i cs).map Cursor.index = List.range' i cs.length := by
  rw [placed, List.map_map]
  exact List.zipIdx_map_snd i cs

theorem firstPathIn?_sectionRows {S : Node} {Q : List Step} (j : Nat) {ds : List Node}
    (h : ∀ d ∈ ds, d.isPipeRow = true ∨ d.isBlankLeaf = true) :
    Node.firstPathIn? (·.isTag "tr") j ds =
      ((placed S Q j ds).filter (·.isTag "tr")).head?.map fun r => [r.index] := by
  induction ds generalizing j with
  | nil => rfl
  | cons d ds ih =>
    rw [Node.firstPathIn?, placed_cons, List.filter_cons]
    by_cases hd : d.isTag "tr" = true
    · simp [hd, Cursor.isTag, Cursor.index]
    · have hleaf : d.isLeafText = true := by
        rcases h d List.mem_cons_self with hrow | hb
        · exact absurd (Node.isTag_tr_of_isPipeRow hrow) hd
        · exact Node.isLeafText_of_isBlankLeaf hb
      have hnone : d.firstPath? (·.isTag "tr") = none := by
        rw [Node.firstPath?_eq, Node.children_of_isLeafText hleaf]
        rfl
      simp only [hd, Bool.false_eq_true, if_false, hnone, Option.map_none, Option.none_or,
        Cursor.isTag]
      exact ih _ fun x hx => h x (List.mem_cons_of_mem d hx)

theorem findIn?_sectionRows {S : Node} {Q : List Step} (j : Nat) {ds : List Node}
    (h : ∀ d ∈ ds, d.isPipeRow = true ∨ d.isBlankLeaf = true) :
    Node.findIn? (·.isTag "tr") ds =
      ((placed S Q j ds).filter (·.isTag "tr")).head?.map (·.node) := by
  induction ds generalizing j with
  | nil => rfl
  | cons d ds ih =>
    rw [Node.findIn?, placed_cons, List.filter_cons]
    by_cases hd : d.isTag "tr" = true
    · simp [hd, Cursor.isTag]
    · have hleaf : d.isLeafText = true := by
        rcases h d List.mem_cons_self with hrow | hb
        · exact absurd (Node.isTag_tr_of_isPipeRow hrow) hd
        · exact Node.isLeafText_of_isBlankLeaf hb
      simp only [hd, Bool.false_eq_true, if_false, Node.findDescendant?_of_isLeafText hleaf,
        Option.none_or, Cursor.isTag]
      exact ih (j + 1) fun x hx => h x (List.mem_cons_of_mem d hx)

theorem firstPathIn?_tableRows {T : Node} {P : List Step} (i : Nat) {cs : List Node}
    (h : ∀ c ∈ cs, (c.isPipeRow = true ∨ c.isPipeSection = true) ∨ c.isBlankLeaf = true) :
    Node.firstPathIn? (·.isTag "tr") i cs =
      ((placed T P i cs).flatMap Cursor.rowsOf).head?.map (·.2) := by
  induction cs generalizing i with
  | nil => rfl
  | cons c cs ih =>
    rw [Node.firstPathIn?, placed_cons, List.flatMap_cons, List.head?_append, Option.map_or,
      ← ih (i + 1) fun x hx => h x (List.mem_cons_of_mem c hx)]
    rcases h c List.mem_cons_self with (hrow | hsec) | hb
    · simp [Node.isTag_tr_of_isPipeRow hrow, Cursor.rowsOf, Cursor.isTag, Cursor.index]
    · -- the section's rows come before those of the children after it
      have htr := Node.isTag_tr_of_isPipeSection hsec
      simp [htr, Cursor.rowsOf, Cursor.isTag, Cursor.index, Node.firstPath?_eq,
        firstPathIn?_sectionRows (S := c) (Q := ⟨T, i⟩ :: P) 0 (Node.pipeSection_children hsec),
        Cursor.children_eq_placed, List.head?_map, Option.map_map, Function.comp_def]
    · have hleaf := Node.isLeafText_of_isBlankLeaf hb
      simp [Node.isTag_of_isLeafText hleaf, Cursor.rowsOf, Cursor.isTag, Node.firstPath?_eq,
        Node.children_of_isLeafText hleaf, Cursor.children_eq_placed, placed_nil, Node.firstPathIn?]

theorem findIn?_tableRows {T : Node} {P : List Step} (i : Nat) {cs : List Node}
    (h : ∀ c ∈ cs, (c.isPipeRow = true ∨ c.isPipeSection = true) ∨ c.isBlankLeaf = true) :
    Node.findIn? (·.isTag "tr") cs =
      ((placed T P i cs).flatMap Cursor.rowsOf).head?.map (·.1.node) := by
  induction cs generalizing i with
  | nil => rfl
  | cons c cs ih =>
    rw [Node.findIn?, placed_cons, List.flatMap_cons, List.head?_append, Option.map_or,
      ← ih (i + 1) fun x hx => h x (List.mem_cons_of_mem c hx)]
    rcases h c List.mem_cons_self with (hrow | hsec) | hb
    · simp [Node.isTag_tr_of_isPipeRow hrow, Cursor.rowsOf, Cursor.isTag]
    · have htr := Node.isTag_tr_of_isPipeSection hsec
      simp [htr, Cursor.rowsOf, Cursor.isTag, Node.findDescendant?_eq,
        findIn?_sectionRows (S := c) (Q := ⟨T, i⟩ :: P) 0 (Node.pipeSection_children hsec),
        Cursor.children_eq_placed, List.head?_map, Option.map_map, Function.comp_def]
    · have hleaf := Node.isLeafText_of_isBlankLeaf hb
      simp [Node.isTag_of_isLeafText hleaf, Cursor.rowsOf, Cursor.isTag, Node.findDescendant?_eq,
        Node.children_of_isLeafText hleaf, Cursor.children_eq_placed, placed_nil, Node.findIn?]

theorem Cursor.firstPath?_tableRows {t : Cursor} (h : t.node.isPipeTable = true) :
    t.node.firstPath? (·.isTag "tr") = t.tableRowsAt.head?.map (·.2) := by
  rw [Node.firstPath?_eq, Cursor.tableRowsAt, Cursor.children_eq_placed]
  exact firstPathIn?_tableRows 0 (Node.pipeTable_children h)

theorem Cursor.findDescendant?_tableRows {t : Cursor} (h : t.node.isPipeTable = true) :
    t.node.findDescendant? (·.isTag "tr") = t.tableRowsAt.head?.map (·.1.node) := by
  rw [Node.findDescendant?_eq, Cursor.tableRowsAt, Cursor.children_eq_placed]
  exact findIn?_tableRows 0 (Node.pipeTable_children h)

theorem Cursor.head?_of_mem_rowsOf {d : Cursor} {x : Cursor × List Nat} (hx : x ∈ d.rowsOf) :
    x.2.head? = some d.index := by
  unfold Cursor.rowsOf at hx
  split at hx
  · rw [List.mem_singleton.1 hx]
    rfl
  · obtain ⟨r, -, rfl⟩ := List.mem_map.1 hx
    rfl

theorem Cursor.nodup_map_index_children (c : Cursor) : (c.children.map Cursor.index).Nodup := by
  rw [Cursor.children_eq_placed, map_index_placed]
  exact List.nodup_range'

theorem Cursor.nodup_rowsOf (d : Cursor) : (d.rowsOf.map (·.2)).Nodup := by
  unfold Cursor.rowsOf
  split
  · simp
  · -- the rows of a section stand at different positions in it
    have hidx : ((d.children.filter (·.isTag "tr")).map Cursor.index).Nodup :=
      d.nodup_map_index_children.sublist (List.filter_sublist.map _)
    have hmap :
        ((d.children.filter (·.isTag "tr")).map fun r => (r, [d.index, r.index])).map (·.2) =
          ((d.children.filter (·.isTag "tr")).map Cursor.index).map fun j => [d.index, j] := by
      simp [List.map_map, Function.comp_def]
    rw [hmap]
    exact hidx.map fun a b hab => by simpa using hab

theorem Cursor.nodup_tableRowsAt (t : Cursor) : (t.tableRowsAt.map (·.2)).Nodup := by
  rw [Cursor.tableRowsAt, List.map_flatMap, List.nodup_flatMap]
  refine ⟨fun d _ => d.nodup_rowsOf, ?_⟩
  -- the children stand at different positions, and the path to a row starts at its child's
  refine (List.pairwise_map.1 t.nodup_map_index_children).imp fun {a b} hab => ?_
  intro q hqa hqb
  obtain ⟨xa, hxa, rfl⟩ := List.mem_map.1 hqa
  obtain ⟨xb, hxb, hx⟩ := List.mem_map.1 hqb
  have ha := Cursor.head?_of_mem_rowsOf hxa
  have hb := Cursor.head?_of_mem_rowsOf hxb
  rw [hx] at hb
  exact hab (Option.some.inj (ha.symm.trans hb))

theorem Cursor.mem_tableRows_of_mem_rowsOf {t d : Cursor} (hd : d ∈ t.children)
    {x : Cursor × List Nat} (hx : x ∈ d.rowsOf) : x.1 ∈ t.tableRows :=
  List.mem_map_of_mem (List.mem_flatMap.2 ⟨d, hd, hx⟩)

theorem Node.isTag_table_of_pipeTable_child {n : Node} (h : n.isPipeTable = true) {d : Node}
    (hd : d ∈ n.children) (htr : d.isTag "tr" = false) : d.isTag "table" = false := by
  rcases Node.pipeTable_children h d hd with (hrow | hsec) | hb
  · exact absurd (Node.isTag_tr_of_isPipeRow hrow) (by simp [htr])
  · exact Node.isTag_of_isPipeSection hsec (by decide)
  · exact Node.isTag_of_isLeafText (Node.isLeafText_of_isBlankLeaf hb) _

theorem isImplicitHeader_of_mem_tableRowsAt {o : Options} {t : Cursor}
    (h : t.node.isPipeTable = true) {r : Cursor} {p : List Nat} (hr : (r, p) ∈ t.tableRowsAt) :
    isImplicitHeader o r = (o.headerRow == .firstRow &&
      (t.node.firstPath? (·.isTag "tr") == some p && !t.hasDescendant "th")) := by
  obtain ⟨d, hd, hrd⟩ := List.mem_flatMap.1 hr
  have htable : t.isTag "table" = true := Node.isTag_table_of_isPipeTable h
  obtain ⟨i, -, hdpath⟩ := Cursor.mem_children.1 hd
  unfold Cursor.rowsOf at hrd
  split at hrd
  · -- a row of the table's own: the nearest table is its parent
    obtain ⟨rfl, rfl⟩ := Prod.mk.inj (List.mem_singleton.1 hrd)
    rw [isImplicitHeader, Cursor.ancestors_of_mem_children hd]
    simp [htable, hdpath, Cursor.index]
  · -- a row of a section: the section is no table, the table is above it
    rename_i htr
    obtain ⟨r', hr', he⟩ := List.mem_map.1 hrd
    obtain ⟨rfl, rfl⟩ := Prod.mk.inj he
    have hrd' := (List.mem_filter.1 hr').1
    obtain ⟨j, -, hrpath⟩ := Cursor.mem_children.1 hrd'
    have hdtable : d.isTag "table" = false :=
      Node.isTag_table_of_pipeTable_child h (Cursor.node_mem_children hd)
        (by simpa [Cursor.isTag] using htr)
    rw [isImplicitHeader, Cursor.ancestors_of_mem_children hrd',
      Cursor.ancestors_of_mem_children hd]
    simp [htable, hdtable, hrpath, hdpath, Cursor.index]

theorem isSome_findIn?_of_shallow {p : Node → Bool} {l : List Node}
    (h : ∀ x ∈ l, x.findDescendant? p = none) : (Node.findIn? p l).isSome = l.any p := by
  induction l with
  | nil => rfl
  | cons x l ih =>
    rw [Node.findIn?, List.any_cons]
    cases hx : p x
    · simp [h x List.mem_cons_self, ih fun y hy => h y (List.mem_cons_of_mem x hy)]
    · rfl

theorem Cursor.hasDescendant_th_of_isPipeRow {r : Cursor} (h : r.node.isPipeRow = true) :
    r.hasDescendant "th" = r.node.children.any (·.isTag "th") := by
  simp only [Node.isPipeRow, Bool.and_eq_true, List.all_eq_true, Bool.or_eq_true] at h
  rw [Cursor.hasDescendant, Node.hasDescendant, Node.findDescendant?_eq]
  refine isSome_findIn?_of_shallow fun x hx => ?_
  rcases h.2 x hx with hc | hb
  · -- a cell holds texts only
    simp only [Node.isPipeCell, Bool.and_eq_true, List.all_eq_true] at hc
    rw [Node.findDescendant?_eq]
    exact Node.findIn?_eq_none fun y hy => Node.noTag_of_isLeafText (hc.2 y hy) _
  · exact Node.findDescendant?_of_isLeafText (Node.isLeafText_of_isBlankLeaf hb) _

theorem Cursor.hasDescendant_th_of_tableRows {t : Cursor} (h : t.node.isPipeTable = true)
    (hrows : ∀ r ∈ t.tableRows, r.hasDescendant "th" = false) :
    t.hasDescendant "th" = false := by
  -- a row of the table or of a section is searched by the hypothesis, a blank text holds nothing
  have hrow : ∀ c ∈ t.children, ∀ x ∈ c.rowsOf,
      x.1.node.findDescendant? (·.isTag "th") = none := by
    intro c hc x hx
    simpa [Cursor.hasDescendant, Node.hasDescendant] using
      hrows x.1 (Cursor.mem_tableRows_of_mem_rowsOf hc hx)
  have hnone : Node.findIn? (·.isTag "th") t.node.children = none := by
    refine Node.findIn?_eq_none fun n hn => ?_
    obtain ⟨d, hd, rfl⟩ := Cursor.exists_mem_children hn
    rcases Node.pipeTable_children h d.node hn with (hr | hsec) | hb
    · refine ⟨Node.isTag_of_isTag_ne (Node.isTag_tr_of_isPipeRow hr) (by decide),
        hrow d hd (d, [d.index]) ?_⟩
      simp [Cursor.rowsOf, Cursor.isTag, Node.isTag_tr_of_isPipeRow hr]
    · refine ⟨Node.isTag_of_isPipeSection hsec (by decide), ?_⟩
      · rw [Node.findDescendant?_eq]
        refine Node.findIn?_eq_none fun m hm => ?_
        obtain ⟨r, hr, rfl⟩ := Cursor.exists_mem_children hm
        rcases Node.pipeSection_children hsec r.node hm with hrr | hrb
        · refine ⟨Node.isTag_of_isTag_ne (Node.isTag_tr_of_isPipeRow hrr) (by decide),
            hrow d hd (r, [d.index, r.index]) ?_⟩
          simp only [Cursor.rowsOf, Cursor.isTag, Node.isTag_tr_of_isPipeSection hsec,
            Bool.false_eq_true, if_false]
          exact List.mem_map_of_mem (List.mem_filter.2 ⟨hr, Node.isTag_tr_of_isPipeRow hrr⟩)
        · exact Node.noTag_of_isLeafText (Node.isLeafText_of_isBlankLeaf hrb) _
    · exact Node.noTag_of_isLeafText (Node.isLeafText_of_isBlankLeaf hb) _
  rw [Cursor.hasDescendant, Node.hasDescendant, Node.findDescendant?_eq, hnone]
  rfl

def tableLines (implicit : Bool) : List (List String × Bool) → String
  | [] => ""
  | (cells, th) :: rows =>
    rowOut cells (th || implicit) ++ String.join (rows.map fun x => rowOut x.1 x.2)

theorem tableLines_cons (implicit : Bool) (x : List String × Bool)
    (rows : List (List String × Bool)) :
    tableLines implicit (x :: rows) =
      rowOut x.1 (x.2 || implicit) ++ String.join (rows.map fun x => rowOut x.1 x.2) := by
  cases x
  rfl

def Setting.rowData (s : Setting) (r : Cursor) : List String × Bool :=
  (r.cells.map s.cellContent, r.node.children.any (·.isTag "th"))

theorem Setting.rowText_of_mem_tableRowsAt {s : Setting} {t : Cursor}
    (h : t.node.isPipeTable = true) {r : Cursor} {p : List Nat} (hr : (r, p) ∈ t.tableRowsAt) :
    s.rowText r = rowOut (s.rowData r).1 ((s.rowData r).2 || (s.options.headerRow == .firstRow &&
      (t.node.firstPath? (·.isTag "tr") == some p && !t.hasDescendant "th"))) := by
  rw [Setting.rowText, isImplicitHeader_of_mem_tableRowsAt h hr]
  rfl

theorem Setting.join_rowText_tableRows {s : Setting} {t : Cursor} (h : t.node.isPipeTable = true) :
    String.join (t.tableRows.map s.rowText) =
      tableLines (s.options.headerRow == .firstRow && !t.hasDescendant "th")
        (t.tableRows.map s.rowData) := by
  have hfirst := Cursor.firstPath?_tableRows h
  have hnodup := t.nodup_tableRowsAt
  have hrow : ∀ x ∈ t.tableRowsAt,
      s.rowText x.1 = rowOut (s.rowData x.1).1 ((s.rowData x.1).2 ||
        (s.options.headerRow == .firstRow &&
          (t.node.firstPath? (·.isTag "tr") == some x.2 && !t.hasDescendant "th"))) :=
    fun x hx => s.rowText_of_mem_tableRowsAt h hx
  unfold Cursor.tableRows
  cases hL : t.tableRowsAt with
  | nil => rfl
  | cons x rest =>
    rw [hL] at hfirst hnodup hrow
    simp only [List.head?_cons, Option.map_some, List.map_cons] at hfirst hnodup
    have hrest : ∀ y ∈ rest, s.rowText y.1 = rowOut (s.rowData y.1).1 (s.rowData y.1).2 := by
      intro y hy
      have hne : x.2 ≠ y.2 := fun he =>
        (List.nodup_cons.1 hnodup).1 (by rw [he]; exact List.mem_map_of_mem hy)
      have hbeq : (x.2 == y.2) = false := by simpa using hne
      rw [hrow y (List.mem_cons_of_mem x hy), hfirst, Option.some_beq_some, hbeq]
      simp
    simp only [List.map_cons]
    rw [String.join_cons, tableLines_cons, hrow x List.mem_cons_self, hfirst]
    simp only [beq_self_eq_true, Bool.true_and, List.map_map]
    exact congrArg _ (congrArg String.join (List.map_congr_left hrest))

theorem Setting.convert_pipeTable_eq {s : Setting} (hreg : s.registry = Registry.builtIn)
    (hpass : s.options.passThroughTags = []) {t : Cursor} (h : t.node.isPipeTable = true) :
    s.convert t = .ok (tablePrefix s.options t ++
      tableLines (s.options.headerRow == .firstRow && !t.hasDescendant "th")
        (t.tableRows.map s.rowData) ++ "\n") := by
  rw [Setting.convert_pipeTable_rows hreg hpass h, Setting.join_rowText_tableRows h]

theorem join_rowOut_of_forall {rows : List (List String × Bool)}
    (h : ∀ x ∈ rows, x.2 = false) :
    String.join (rows.map fun x => rowOut x.1 x.2) = String.join (rows.map fun x => rowLine x.1) :=
  congrArg String.join (List.map_congr_left fun x hx => by rw [h x hx, rowOut_false])

theorem tableLines_of_forall {rows : List (List String × Bool)} (h : ∀ x ∈ rows, x.2 = false) :
    tableLines false rows = String.join (rows.map fun x => rowLine x.1) := by
  cases rows with
  | nil => rfl
  | cons x rows =>
    obtain ⟨cells, th⟩ := x
    have hth : th = false := h _ List.mem_cons_self
    rw [tableLines, join_rowOut_of_forall fun y hy => h y (List.mem_cons_of_mem _ hy), hth,
      Bool.or_false, rowOut_false, List.map_cons, String.join_cons]

theorem tableLines_cons_of_head {implicit : Bool} {x : List String × Bool}
    (hh : (x.2 || implicit) = true) {rows : List (List String × Bool)}
    (h : ∀ y ∈ rows, y.2 = false) :
    tableLines implicit (x :: rows) =
      rowOut x.1 true ++ String.join (rows.map fun y => rowLine y.1) := by
  rw [tableLines_cons, hh, join_rowOut_of_forall h]

theorem tablePrefix_firstRow {o : Options} (ho : o.headerRow = .firstRow) (t : Cursor) :
    tablePrefix o t = "\n\n" := by
  simp [tablePrefix, ho]

theorem Cursor.isPipeCell_of_mem_cells {r : Cursor} (h : r.node.isPipeRow = true) {d : Cursor}
    (hd : d ∈ r.cells) : d.node.isPipeCell = true := by
  obtain ⟨hd, hcell⟩ := List.mem_filter.1 hd
  simp only [Node.isPipeRow, Bool.and_eq_true, List.all_eq_true, Bool.or_eq_true] at h
  rcases h.2 d.node (Cursor.node_mem_children hd) with hc | hb
  · exact hc
  · have hleaf := Node.isLeafText_of_isBlankLeaf hb
    simp [Cursor.isTag, Node.isTag_of_isLeafText hleaf] at hcell

theorem Cursor.isPipeRow_of_mem_tableRows {t : Cursor} (h : t.node.isPipeTable = true) {r : Cursor}
    (hr : r ∈ t.tableRows) : r.node.isPipeRow = true := by
  obtain ⟨⟨r, p⟩, hx, rfl⟩ := List.mem_map.1 hr
  obtain ⟨d, hd, hrd⟩ := List.mem_flatMap.1 hx
  have hkind := Node.pipeTable_children h d.node (Cursor.node_mem_children hd)
  unfold Cursor.rowsOf at hrd
  split at hrd
  · -- a row of the table's own
    rename_i htr
    obtain ⟨rfl, rfl⟩ := Prod.mk.inj (List.mem_singleton.1 hrd)
    rcases hkind with (hrow | hsec) | hb
    · exact hrow
    · simp [Cursor.isTag, Node.isTag_tr_of_isPipeSection hsec] at htr
    · simp [Cursor.isTag, Node.isTag_of_isLeafText (Node.isLeafText_of_isBlankLeaf hb)] at htr
  · -- a row of a section: a row holds no rows, and a blank text no children
    rename_i hntr
    obtain ⟨r', hr', he⟩ := List.mem_map.1 hrd
    obtain ⟨rfl, rfl⟩ := Prod.mk.inj he
    obtain ⟨hrd', htr⟩ := List.mem_filter.1 hr'
    rcases hkind with (hrow | hsec) | hb
    · exact absurd (Node.isTag_tr_of_isPipeRow hrow) hntr
    · rcases Node.pipeSection_children hsec r'.node (Cursor.node_mem_children hrd') with hrr | hrb
      · exact hrr
      · simp [Cursor.isTag, Node.isTag_of_isLeafText (Node.isLeafText_of_isBlankLeaf hrb)] at htr
    · rw [Cursor.children_of_isLeafText (Node.isLeafText_of_isBlankLeaf hb)] at hrd'
      simp at hrd'

theorem Setting.rowData_snd {s : Setting} {t : Cursor} (h : t.node.isPipeTable = true) {r : Cursor}
    (hr : r ∈ t.tableRows) : (s.rowData r).2 = r.hasDescendant "th" :=
  (Cursor.hasDescendant_th_of_isPipeRow (Cursor.isPipeRow_of_mem_tableRows h hr)).symm

theorem Cursor.length_cells_of_any {r : Cursor} (h : r.node.children.any (·.isTag "th") = false) :
    r.cells.length = (r.node.children.filter (·.isTag "td")).length := by
  rw [Cursor.length_cells]
  refine congrArg List.length (List.filter_congr fun n hn => ?_)
  have hth : n.isTag "th" = false := by simpa using List.any_eq_false.1 h n hn
  rw [hth, Bool.or_false]

theorem tablePrefix_emptyRow {o : Options} {t : Cursor} (h : t.node.isPipeTable = true)
    (ho : o.headerRow = .emptyRow) (hrows : ∀ r ∈ t.tableRows, r.hasDescendant "th" = false)
    {r : Cursor} {rest : List Cursor} (hfirst : t.tableRows = r :: rest) :
    tablePrefix o t =
      "\n\n" ++ pipeRow "<!---->" r.cells.length ++ pipeRow "---" r.cells.length := by
  have hth := Cursor.hasDescendant_th_of_tableRows h hrows
  have hfind : t.node.findDescendant? (·.isTag "tr") = some r.node := by
    have hhead : t.tableRows.head?.map (·.node) = some r.node := by
      rw [hfirst]
      rfl
    rw [Cursor.findDescendant?_tableRows h, ← hhead, Cursor.tableRows, List.head?_map,
      Option.map_map]
    rfl
  have hr : r ∈ t.tableRows := by
    rw [hfirst]
    exact List.mem_cons_self
  have hcells := Cursor.length_cells_of_any (r := r) (by
    rw [← Cursor.hasDescendant_th_of_isPipeRow (Cursor.isPipeRow_of_mem_tableRows h hr)]
    exact hrows r hr)
  simp [tablePrefix, ho, hth, hfind, hcells, String.append_assoc]

def firstWidth : List (List String) → Nat
  | [] => 0
  | [] :: rows => firstWidth rows
  | cells@(_ :: _) :: _ => cells.length

theorem firstWidth_cons {cells : List String} (hc : cells ≠ []) (rows : List (List String)) :
    firstWidth (cells :: rows) = cells.length := by
  obtain ⟨c, cs, rfl⟩ := List.exists_cons_of_ne_nil hc
  rfl

theorem Setting.rowData_snd_of_forall {s : Setting} {t : Cursor} (h : t.node.isPipeTable = true)
    {l : List Cursor} (hl : ∀ r ∈ l, r ∈ t.tableRows ∧ r.hasDescendant "th" = false) :
    ∀ x ∈ l.map s.rowData, x.2 = false := by
  intro x hx
  obtain ⟨r, hr, rfl⟩ := List.mem_map.1 hx
  rw [Setting.rowData_snd h (hl r hr).1, (hl r hr).2]

theorem Setting.convert_pipeTable_headed {s : Setting} (hreg : s.registry = Registry.builtIn)
    (hpass : s.options.passThroughTags = []) {t : Cursor} (ht : t.node.isPipeTable = true)
    {r : Cursor} {rest : List Cursor} (hrows : t.tableRows = r :: rest) (hcells : r.cells ≠ [])
    (ho : s.options.headerRow = .firstRow) (hth : ∀ r' ∈ rest, r'.hasDescendant "th" = false) :
    s.convert t =
      .ok ("\n\n" ++ headedLines (t.tableRows.map fun r => r.cells.map s.cellContent) ++ "\n") := by
  have hr : r ∈ t.tableRows := by
    rw [hrows]
    exact List.mem_cons_self
  have hrest : ∀ r' ∈ rest, r' ∈ t.tableRows := fun r' h' => by
    rw [hrows]
    exact List.mem_cons_of_mem r h'
  have hhead : ((s.rowData r).2 ||
      (s.options.headerRow == .firstRow && !t.hasDescendant "th")) = true := by
    rw [Setting.rowData_snd ht hr, ho]
    cases hth₀ : r.hasDescendant "th" with
    | true => rfl
    | false =>
      have hnone : t.hasDescendant "th" = false := Cursor.hasDescendant_th_of_tableRows ht (by
        rw [hrows]
        rintro r' (_ | ⟨_, h'⟩)
        exacts [hth₀, hth r' h'])
      simp [hnone]
  rw [Setting.convert_pipeTable_eq hreg hpass ht, tablePrefix_firstRow ho, hrows, List.map_cons,
    tableLines_cons_of_head hhead
      (Setting.rowData_snd_of_forall ht fun r' h' => ⟨hrest r' h', hth r' h'⟩),
    List.map_cons, headedLines_cons (by simpa using hcells), List.map_map, List.map_map]
  rfl

theorem Setting.convert_pipeTable_emptyHeader {s : Setting} (hreg : s.registry = Registry.builtIn)
    (hpass : s.options.passThroughTags = []) {t : Cursor} (ht : t.node.isPipeTable = true)
    {r : Cursor} {rest : List Cursor} (hrows : t.tableRows = r :: rest) (hcells : r.cells ≠ [])
    (ho : s.options.headerRow = .emptyRow)
    (hth : ∀ r ∈ t.tableRows, r.hasDescendant "th" = false) :
    s.convert t = .ok ("\n\n" ++
      pipeRow "<!---->" (firstWidth (t.tableRows.map fun r => r.cells.map s.cellContent)) ++
      pipeRow "---" (firstWidth (t.tableRows.map fun r => r.cells.map s.cellContent)) ++
      String.join ((t.tableRows.map fun r => r.cells.map s.cellContent).map rowLine) ++ "\n") := by
  -- no row heads the table, and the empty header row takes the first row's width
  have hnone := Cursor.hasDescendant_th_of_tableRows ht hth
  have hplain := Setting.rowData_snd_of_forall (s := s) ht fun r' h' => ⟨h', hth r' h'⟩
  rw [Setting.convert_pipeTable_eq hreg hpass ht, tablePrefix_emptyRow ht ho hth hrows, hnone,
    ho, show (HeaderRow.emptyRow == .firstRow && !false) = false from rfl,
    tableLines_of_forall hplain, hrows]
  simp only [List.map_cons, List.map_map]
  rw [firstWidth_cons (by simpa using hcells), List.length_map]
  rfl

/-- A pipe table whose first row has a cell gets exactly one header. -/
theorem convert_pipeTable {s : Setting} (hreg : s.registry = Registry.builtIn)
    (hpass : s.options.passThroughTags = []) {t : Cursor} (ht : t.node.isPipeTable = true)
    (hfirst : ∃ r rest, t.tableRows = r :: rest ∧ r.cells ≠ []) :
    ∃ content : Cursor → String,
      (∀ r ∈ t.tableRows, ∀ d ∈ r.cells, s.convert d = .ok (" " ++ content d ++ " |")) ∧
      (s.options.headerRow = .firstRow → (∀ r ∈ t.tableRows.tail, r.hasDescendant "th" = false) →
        s.convert t =
          .ok ("\n\n" ++ headedLines (t.tableRows.map fun r => r.cells.map content) ++ "\n")) ∧
      (s.options.headerRow = .emptyRow → (∀ r ∈ t.tableRows, r.hasDescendant "th" = false) →
        s.convert t = .ok ("\n\n" ++
          pipeRow "<!---->" (firstWidth (t.tableRows.map fun r => r.cells.map content)) ++
          pipeRow "---" (firstWidth (t.tableRows.map fun r => r.cells.map content)) ++
          String.join ((t.tableRows.map fun r => r.cells.map content).map rowLine) ++ "\n")) := by
  obtain ⟨r, rest, hrows, hcells⟩ := hfirst
  refine ⟨s.cellContent, fun r' hr' d hd => ?_, fun ho hth => ?_, fun ho hth => ?_⟩
  · exact Setting.convert_pipeCell hreg hpass
      (Cursor.isPipeCell_of_mem_cells (Cursor.isPipeRow_of_mem_tableRows ht hr') hd)
  · rw [hrows, List.tail_cons] at hth
    exact Setting.convert_pipeTable_headed hreg hpass ht hrows hcells ho hth
  · exact Setting.convert_pipeTable_emptyHeader hreg hpass ht hrows hcells ho hth

theorem lowercase_tableTags : lowercase "table" = "table" ∧ lowercase "thead" = "thead" ∧
    lowercase "tbody" = "tbody" ∧ lowercase "tr" = "tr" ∧ lowercase "td" = "td" ∧
    lowercase "th" = "th" :=
  ⟨lowercase_ascii (by simp), lowercase_ascii (by simp), lowercase_ascii (by simp),
    lowercase_ascii (by simp), lowercase_ascii (by simp), lowercase_ascii (by simp)⟩

def sectionedTable : Cursor :=
  .root (.element "table" [] [.text "\n",
    .element "thead" [] [.element "tr" [] [.element "th" [] [.text "x"], .element "th" [] [.text "y"]]],
    .element "tbody" [] [.element "tr" [] [.element "td" [] [.text "1"], .text " ",
      .element "td" [] [.text "2"]], .text "\n"]])

theorem sectionedTable_one_header :
    sectionedTable.node.isPipeTable = true ∧
      (∃ r rest, sectionedTable.tableRows = r :: rest ∧ r.cells ≠ []) ∧
      ∃ content : Cursor → String, Setting.standard.convert sectionedTable =
        .ok ("\n\n" ++ headedLines (sectionedTable.tableRows.map fun r => r.cells.map content) ++
          "\n") := by
  obtain ⟨htable, hthead, htbody, htr, htd, hth⟩ := lowercase_tableTags
  have ht : sectionedTable.node.isPipeTable = true := by
    simp only [sectionedTable, Cursor.root, Node.element, htable, hthead, htbody, htr, htd, hth]
    decide
  have hfirst : ∃ r rest, sectionedTable.tableRows = r :: rest ∧ r.cells ≠ [] := by
    simp only [sectionedTable, Cursor.root, Node.element, htable, hthead, htbody, htr, htd, hth]
    exact ⟨_, _, rfl, by decide⟩
  have htail : ∀ r ∈ sectionedTable.tableRows.tail, r.hasDescendant "th" = false := by
    simp only [sectionedTable, Cursor.root, Node.element, htable, hthead, htbody, htr, htd, hth]
    decide
  obtain ⟨content, -, hheaded, -⟩ := convert_pipeTable (s := Setting.standard) rfl rfl ht hfirst
  exact ⟨ht, hfirst, content, hheaded rfl htail⟩

def blankFirstRowTable : Cursor :=
  .root (.element "table" [] [.element "tr" [] [.text " "],
    .element "tr" [] [.element "td" [] [.text "a"]]])

theorem convert_blank_first_row_headless :
    Setting.standard.convert blankFirstRowTable = .ok "\n\n| a |\n\n" := by
  obtain ⟨htable, -, -, htr, htd, -⟩ := lowercase_tableTags
  have ht : blankFirstRowTable.node.isPipeTable = true := by
    simp only [blankFirstRowTable, Cursor.root, Node.element, htable, htr, htd]
    decide
  obtain ⟨r₁, r₂, hrows, hcells₁, d, hcells₂, hth₂, hd⟩ : ∃ r₁ r₂,
      blankFirstRowTable.tableRows = [r₁, r₂] ∧ r₁.cells = [] ∧
        ∃ d, r₂.cells = [d] ∧ r₂.node.children.any (·.isTag "th") = false ∧
          d.children = [⟨.text "a", ⟨d.node, 0⟩ :: d.path⟩] := by
    simp only [blankFirstRowTable, Cursor.root, Node.element, htable, htr, htd]
    exact ⟨_, _, rfl, rfl, _, rfl, rfl, rfl⟩
  -- the cell's text is a word, which converts to itself
  have hcontent : Setting.standard.cellContent d = "a" := by
    have hplain : ∀ x ∈ "a".toList, x.isAlphanum ∨ x = ' ' := by simp
    have hsolid : (Node.text "a").isBlankText = false := by decide
    have hword :
        textMarkdown Setting.standard.options ⟨.text "a", ⟨d.node, 0⟩ :: d.path⟩ = "a" := by
      rw [textMarkdown]
      simp only [hsolid, Bool.false_eq_true, if_false]
      exact (congrArg _ (decodeText_plain hplain)).trans (escape_plain hplain)
    rw [Setting.cellContent, hd, List.map_singleton, hword]
    decide
  rw [Setting.convert_pipeTable_eq rfl rfl ht, tablePrefix_firstRow rfl, hrows]
  simp only [List.map_cons, List.map_nil, tableLines_cons, Setting.rowData, hcells₁, hcells₂,
    hth₂, hcontent, rowOut_nil]
  decide

end HtmlMarkdown
