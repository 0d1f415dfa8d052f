import HtmlMarkdown.Proofs.EmphasisDelimiters
import HtmlMarkdown.Proofs.LooseItems
import HtmlMarkdown.Proofs.PipeTables

namespace HtmlMarkdown

theorem Setting.convert_ok_of_foldlM {s : Setting} {ds : List Cursor} {acc out : String}
    (h : ds.foldlM (fun acc d => do pure (acc ++ (← s.convert d))) acc = .ok out) :
    ∀ d ∈ ds, ∃ o, s.convert d = .ok o := by
  induction ds generalizing acc with
  | nil => simp
  | cons d ds ih =>
    rw [List.foldlM_cons] at h
    cases hd : s.convert d with
    | error e => simp [hd, bind, Except.bind] at h
    | ok o =>
      simp only [hd, bind, Except.bind, pure, Except.pure] at h
      intro e he
      rcases List.mem_cons.1 he with rfl | he
      · exact ⟨o, hd⟩
      · exact ih h e he

theorem Setting.convertChildren_ok {s : Setting} {c : Cursor} {out : String}
    (h : s.convertChildren c = .ok out) :
    ∃ g : Cursor → String, (∀ d ∈ c.children, s.convert d = .ok (g d)) ∧
      out = String.join (c.children.map g) := by
  have hall := Setting.convert_ok_of_foldlM ((Setting.convertChildren_eq s c).symm.trans h)
  -- the Markdown of a child that converts, and nothing for one that fails
  refine ⟨fun d => (s.convert d).toOption.getD "", fun d hd => ?_, ?_⟩
  · obtain ⟨o, ho⟩ := hall d hd
    simp [ho, Except.toOption]
  · have hjoin := Setting.convertChildren_of_forall (s := s) (c := c)
      (g := fun d => (s.convert d).toOption.getD "") fun d hd => by
        obtain ⟨o, ho⟩ := hall d hd
        simp [ho, Except.toOption]
    rw [h] at hjoin
    exact Except.ok.inj hjoin

theorem join_map_of_forall_empty {α : Type} {l : List α} {g : α → String}
    (h : ∀ a ∈ l, g a = "") : String.join (l.map g) = "" := by
  induction l with
  | nil => rfl
  | cons a l ih =>
    rw [List.map_cons, String.join_cons, h a List.mem_cons_self,
      ih (fun b hb => h b (List.mem_cons_of_mem a hb)), String.empty_append]

/-- The children of an element whose only child is a word convert to the word. -/
theorem Setting.convertChildren_word {s : Setting} (hreg : s.registry = Registry.builtIn)
    (ho : s.options.escapeRules = defaultEscapeRules) {c : Cursor} {v : String}
    (hc : c.node.children = [.text v]) (hne : v ≠ "") (hv : ∀ x ∈ v.toList, x.isAlphanum) :
    s.convertChildren c = .ok v :=
  Setting.convertChildren_of_text hreg hc fun _ hd => textMarkdown_word ho hd hne hv

theorem placed_append (N : Node) (P : List Step) (i : Nat) (A B : List Node) :
    placed N P i (A ++ B) = placed N P i A ++ placed N P (i + A.length) B := by
  induction A generalizing i with
  | nil => rfl
  | cons a A ih =>
    rw [List.cons_append, placed_cons, placed_cons, ih, List.length_cons, List.cons_append]
    congr 3
    omega

theorem Cursor.path_of_children_eq {p x : Cursor} {pre rest : List Cursor}
    (h : p.children = pre ++ x :: rest) : x.path = ⟨p.node, pre.length⟩ :: p.path := by
  have hnodes : p.node.children = pre.map (·.node) ++ x.node :: rest.map (·.node) := by
    rw [← p.map_node_children, h, List.map_append, List.map_cons]
  rw [Cursor.children_eq_placed, hnodes, placed_append, placed_cons, List.length_map,
    Nat.zero_add] at h
  have hlen : (placed p.node p.path 0 (pre.map (·.node))).length = pre.length := by
    simp [placed]
  obtain ⟨-, hx⟩ := List.append_inj h hlen
  rw [← (List.cons.inj hx).1]

theorem Cursor.nextSibling?_of_children_eq {p x : Cursor} {pre rest : List Cursor}
    (h : p.children = pre ++ x :: rest) : x.nextSibling? = rest.head?.map (·.node) := by
  have hnodes : p.node.children = (pre ++ x :: rest).map (·.node) := by
    rw [← p.map_node_children, h]
  rw [Cursor.nextSibling?, Cursor.siblings, Cursor.index, Cursor.path_of_children_eq h]
  dsimp only
  rw [hnodes, List.map_append, List.map_cons, List.getElem?_append_right (by simp),
    List.length_map, Nat.add_sub_cancel_left, List.getElem?_cons_succ, ← List.head?_eq_getElem?,
    List.head?_map]

theorem delimitedFragment_post {kind : List String} {delim : String} {c : Cursor} {X : String}
    (h : (delimitedFragment kind delim c X).pre ≠ "") :
    (delimitedFragment kind delim c X).post = (delimitedFragment kind delim c X).pre ++
      if c.nextSibling?.any (fun n => kind.any n.isTag) then " " else "" := by
  unfold delimitedFragment at h ⊢
  dsimp only at h ⊢
  -- the content after the backslash guard plays no part
  generalize (if (X.toList.getLast? == some '\\' && !(X.toList.reverse.take 2 == ['\\', '\\'])) =
    true then X ++ "\\" else X) = content at h ⊢
  split at h
  · -- a run left without delimiters opens with nothing
    exact absurd rfl h
  · rename_i hrun
    rw [if_neg hrun]
    cases c.nextSibling? <;> rfl

/-- Between an emphasis run and a later sibling, across siblings that write nothing, a space stands
exactly when the run's next sibling is of its kind. -/
theorem delimited_runs_gap {s : Setting} {p x y : Cursor} {pre mid post : List Cursor}
    (hkids : p.children = pre ++ x :: (mid ++ y :: post))
    (hmid : ∀ d ∈ mid, s.convert d = .ok "") {r : Rule} {kind : List String}
    (hkind : r = .emphasis ∧ kind = ["em", "i"] ∨ r = .strong ∧ kind = ["strong", "b"])
    (hrx : s.ruleFor x = .ok r) {fx : Fragment} (hfx : s.convertWith r x = .ok fx)
    (hdx : fx.pre ≠ "") {out : String} (hout : s.convertChildren p = .ok out) :
    ∃ g : Cursor → String, (∀ d ∈ p.children, s.convert d = .ok (g d)) ∧
      out = String.join (pre.map g) ++ (fx.pre ++ fx.content ++ fx.pre) ++
        (if kind.any (mid.head?.getD y).node.isTag then " " else "") ++ g y ++
        String.join (post.map g) := by
  obtain ⟨g, hg, rfl⟩ := Setting.convertChildren_ok hout
  obtain ⟨delim, X, -, rfl⟩ := Setting.convertWith_delimited hkind hfx
  refine ⟨g, hg, ?_⟩
  -- the run writes its fragment, and the siblings between write nothing
  have hx : g x = (delimitedFragment kind delim x X).render := by
    have := hg x (by rw [hkids]; simp)
    rw [Setting.convert_of_ok hrx hfx] at this
    exact (Except.ok.inj this).symm
  have hmid' : String.join (mid.map g) = "" := join_map_of_forall_empty fun d hd => by
    have := hg d (by rw [hkids]; simp [hd])
    rw [hmid d hd] at this
    exact (Except.ok.inj this).symm
  -- the sibling after the run is the first of those between, or the later sibling
  have hnext : x.nextSibling? = some (mid.head?.getD y).node := by
    rw [Cursor.nextSibling?_of_children_eq hkids]
    cases mid <;> rfl
  rw [hkids, List.map_append, List.map_cons, List.map_append, List.map_cons, String.join_append,
    String.join_cons, String.join_append, String.join_cons, hmid', hx, Fragment.render,
    delimitedFragment_post hdx, hnext]
  simp only [Option.any_some, String.append_assoc, String.empty_append]

theorem lowercase_strong : lowercase "strong" = "strong" := lowercase_ascii (by simp)

def adjacentStrongRuns : Node :=
  .element "span" [] [.element "strong" [] [.text "a"], .element "b" [] [.text "b"]]

theorem adjacentStrongRuns_eq : adjacentStrongRuns =
    ⟨.element, "span", "", [], [⟨.element, "strong", "", [], [.text "a"]⟩,
      ⟨.element, "b", "", [], [.text "b"]⟩]⟩ := by
  have hspan : lowercase "span" = "span" := lowercase_ascii (by simp)
  have hb : lowercase "b" = "b" := lowercase_ascii (by simp)
  simp only [adjacentStrongRuns, Node.element, hspan, lowercase_strong, hb]

theorem delimited_runs_gap_adjacent :
    (Cursor.root adjacentStrongRuns).children =
        [] ++ ⟨.element "strong" [] [.text "a"], [⟨adjacentStrongRuns, 0⟩]⟩ ::
          ([] ++ ⟨.element "b" [] [.text "b"], [⟨adjacentStrongRuns, 1⟩]⟩ :: []) ∧
      Setting.standard.ruleFor ⟨.element "strong" [] [.text "a"], [⟨adjacentStrongRuns, 0⟩]⟩ =
        .ok .strong ∧
      Setting.standard.convertWith .strong
          ⟨.element "strong" [] [.text "a"], [⟨adjacentStrongRuns, 0⟩]⟩ =
        .ok ⟨"**", "a", "** "⟩ ∧
      Setting.standard.convertChildren (.root adjacentStrongRuns) = .ok "**a** **b**" ∧
      ∃ g : Cursor → String, (∀ d ∈ (Cursor.root adjacentStrongRuns).children,
          Setting.standard.convert d = .ok (g d)) ∧
        "**a** **b**" = String.join (([] : List Cursor).map g) ++ ("**" ++ "a" ++ "**") ++
          (if ["strong", "b"].any (([] : List Cursor).head?.getD
            ⟨.element "b" [] [.text "b"], [⟨adjacentStrongRuns, 1⟩]⟩).node.isTag then " " else "") ++
          g ⟨.element "b" [] [.text "b"], [⟨adjacentStrongRuns, 1⟩]⟩ ++
          String.join (([] : List Cursor).map g) := by
  have hxa : Node.element "strong" [] [.text "a"] = ⟨.element, "strong", "", [], [.text "a"]⟩ := by
    rw [Node.element, lowercase_strong]
  have hyb : Node.element "b" [] [.text "b"] = ⟨.element, "b", "", [], [.text "b"]⟩ := by
    rw [Node.element, lowercase_ascii (by simp)]
  have hkids : (Cursor.root adjacentStrongRuns).children =
      [] ++ ⟨.element "strong" [] [.text "a"], [⟨adjacentStrongRuns, 0⟩]⟩ ::
        ([] ++ ⟨.element "b" [] [.text "b"], [⟨adjacentStrongRuns, 1⟩]⟩ :: []) := rfl
  have hrx : Setting.standard.ruleFor ⟨.element "strong" [] [.text "a"], [⟨adjacentStrongRuns, 0⟩]⟩ =
      .ok .strong := by
    rw [hxa]
    decide
  have hx : Setting.standard.convertWith .strong
      ⟨.element "strong" [] [.text "a"], [⟨adjacentStrongRuns, 0⟩]⟩ = .ok ⟨"**", "a", "** "⟩ := by
    rw [Setting.convertWith_strong, Setting.convertChildren_word rfl rfl (by rw [hxa]) (by decide)
      (by simp), adjacentStrongRuns_eq, hxa]
    exact congrArg Except.ok (by decide)
  have hy : Setting.standard.convertWith .strong
      ⟨.element "b" [] [.text "b"], [⟨adjacentStrongRuns, 1⟩]⟩ = .ok ⟨"**", "b", "**"⟩ := by
    rw [Setting.convertWith_strong, Setting.convertChildren_word rfl rfl (by rw [hyb]) (by decide)
      (by simp), adjacentStrongRuns_eq, hyb]
    exact congrArg Except.ok (by decide)
  have hcx := Setting.convert_of_ok hrx hx
  have hcy := Setting.convert_of_ok (by rw [hyb]; decide) hy
  have hout : Setting.standard.convertChildren (.root adjacentStrongRuns) = .ok "**a** **b**" := by
    rw [Setting.convertChildren_eq, hkids]
    simp only [List.nil_append, List.foldlM_cons, List.foldlM_nil, hcx, hcy, bind, Except.bind,
      pure, Except.pure]
    rfl
  exact ⟨hkids, hrx, hx, hout, delimited_runs_gap hkids (fun _ h => absurd h List.not_mem_nil)
    (.inr ⟨rfl, rfl⟩) hrx hx (by decide) hout⟩

def strongRunsAroundComment : Node :=
  .element "span" [] [.element "strong" [] [.text "a"], .comment "x",
    .element "strong" [] [.text "b"]]

theorem strongRunsAroundComment_eq : strongRunsAroundComment =
    ⟨.element, "span", "", [], [⟨.element, "strong", "", [], [.text "a"]⟩, .comment "x",
      ⟨.element, "strong", "", [], [.text "b"]⟩]⟩ := by
  have hspan : lowercase "span" = "span" := lowercase_ascii (by simp)
  simp only [strongRunsAroundComment, Node.element, hspan, lowercase_strong]

def droppingComments : Setting := ⟨{ removeComments := true }, Registry.builtIn⟩

theorem strong_runs_collide_across_dropped_comment :
    droppingComments.convertWith .strong
        ⟨.element "strong" [] [.text "a"], [⟨strongRunsAroundComment, 0⟩]⟩ =
        .ok ⟨"**", "a", "**"⟩ ∧
      droppingComments.convert ⟨.comment "x", [⟨strongRunsAroundComment, 1⟩]⟩ = .ok "" ∧
      droppingComments.convertWith .strong
        ⟨.element "strong" [] [.text "b"], [⟨strongRunsAroundComment, 2⟩]⟩ =
        .ok ⟨"**", "b", "**"⟩ ∧
      droppingComments.convertChildren (.root strongRunsAroundComment) = .ok "**a****b**" := by
  have hxa : Node.element "strong" [] [.text "a"] = ⟨.element, "strong", "", [], [.text "a"]⟩ := by
    rw [Node.element, lowercase_strong]
  have hxb : Node.element "strong" [] [.text "b"] = ⟨.element, "strong", "", [], [.text "b"]⟩ := by
    rw [Node.element, lowercase_strong]
  have hx : droppingComments.convertWith .strong
      ⟨.element "strong" [] [.text "a"], [⟨strongRunsAroundComment, 0⟩]⟩ = .ok ⟨"**", "a", "**"⟩ := by
    rw [Setting.convertWith_strong, Setting.convertChildren_word rfl rfl (by rw [hxa]) (by decide)
      (by simp), strongRunsAroundComment_eq, hxa]
    exact congrArg Except.ok (by decide)
  have hy : droppingComments.convertWith .strong
      ⟨.element "strong" [] [.text "b"], [⟨strongRunsAroundComment, 2⟩]⟩ = .ok ⟨"**", "b", "**"⟩ := by
    rw [Setting.convertWith_strong, Setting.convertChildren_word rfl rfl (by rw [hxb]) (by decide)
      (by simp), strongRunsAroundComment_eq, hxb]
    exact congrArg Except.ok (by decide)
  have hm : droppingComments.convert ⟨.comment "x", [⟨strongRunsAroundComment, 1⟩]⟩ = .ok "" :=
    Setting.convert_of_ok (r := .comment) (f := {}) (by decide) (by rw [Setting.convertWith.eq_def]; rfl)
  have hcx := Setting.convert_of_ok (by rw [hxa]; decide) hx
  have hcy := Setting.convert_of_ok (by rw [hxb]; decide) hy
  refine ⟨hx, hm, hy, ?_⟩
  rw [Setting.convertChildren_eq, show (Cursor.root strongRunsAroundComment).children =
    [⟨.element "strong" [] [.text "a"], [⟨strongRunsAroundComment, 0⟩]⟩,
      ⟨.comment "x", [⟨strongRunsAroundComment, 1⟩]⟩,
      ⟨.element "strong" [] [.text "b"], [⟨strongRunsAroundComment, 2⟩]⟩] from rfl]
  simp only [List.foldlM_cons, List.foldlM_nil, hcx, hm, hcy, bind, Except.bind, pure, Except.pure]
  rfl

end HtmlMarkdown
