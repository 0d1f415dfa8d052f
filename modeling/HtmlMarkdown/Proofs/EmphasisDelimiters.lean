import HtmlMarkdown.Proofs.EscapedAsterisks
import HtmlMarkdown.Proofs.LineLength

namespace HtmlMarkdown

/-- The lone trailing backslash test holds when the run of backslashes ending the text has length
one. -/
theorem lone_trailing_backslash_iff (cs : List Char) :
    (cs.getLast? == some '\\' && !(cs.reverse.take 2 == ['\\', '\\'])) = true ↔
      trailingBackslashes cs = 1 := by
  -- both sides read the text from its end
  obtain ⟨r, rfl⟩ : ∃ r, cs = r.reverse := ⟨cs.reverse, (List.reverse_reverse cs).symm⟩
  simp only [List.getLast?_reverse, List.reverse_reverse, trailingBackslashes]
  cases r with
  | nil => simp
  | cons x r =>
    by_cases hx : x = '\\'
    · subst hx
      cases r with
      | nil => simp
      | cons y r => by_cases hy : y = '\\' <;> simp [hy]
    · simp [hx]

theorem delimitedFragment_content (kind : List String) (delim : String) (c : Cursor)
    (X : String) : (delimitedFragment kind delim c X).content =
      if trailingBackslashes X.toList = 1 then X ++ "\\" else X := by
  -- with or without delimiters, the content is the children's Markdown after the guard
  have hcontent : ∀ (b : Bool) (x : String) (f : Fragment), f.content = x →
      (if b = true then Fragment.ofContent x else f).content = x := by
    intro b x f hf
    cases b <;> simp [Fragment.ofContent, hf]
  unfold delimitedFragment
  exact (hcontent _ _ _ rfl).trans (if_congr (lone_trailing_backslash_iff X.toList) rfl rfl)

theorem trailingBackslashes_delimitedFragment (kind : List String) (delim : String) (c : Cursor)
    (X : String) : trailingBackslashes (delimitedFragment kind delim c X).content.toList =
      if trailingBackslashes X.toList = 1 then 2 else trailingBackslashes X.toList := by
  rw [delimitedFragment_content]
  split
  · rename_i h
    rw [String.toList_append, show "\\".toList = ['\\'] from rfl,
      trailingBackslashes_append_backslash, h]
  · rfl

theorem Setting.convertWith_emphasis (s : Setting) (c : Cursor) :
    s.convertWith .emphasis c = (do
      let X ← s.convertChildren c
      pure (delimitedFragment ["em", "i"] s.options.emDelimiter.toString c X)) :=
  (Setting.convertWith.eq_def s .emphasis c).trans rfl

theorem Setting.convertWith_strong (s : Setting) (c : Cursor) :
    s.convertWith .strong c = (do
      let X ← s.convertChildren c
      pure (delimitedFragment ["strong", "b"]
        (s.options.emDelimiter.toString ++ s.options.emDelimiter.toString) c X)) :=
  (Setting.convertWith.eq_def s .strong c).trans rfl

theorem Setting.convertWith_delimited {s : Setting} {c : Cursor} {r : Rule} {kind : List String}
    (hkind : r = .emphasis ∧ kind = ["em", "i"] ∨ r = .strong ∧ kind = ["strong", "b"])
    {f : Fragment} (hf : s.convertWith r c = .ok f) :
    ∃ delim X, s.convertChildren c = .ok X ∧ f = delimitedFragment kind delim c X := by
  cases hX : s.convertChildren c with
  | error e =>
    rcases hkind with ⟨rfl, -⟩ | ⟨rfl, -⟩ <;>
      simp [Setting.convertWith_emphasis, Setting.convertWith_strong, hX, bind, Except.bind] at hf
  | ok X =>
    rcases hkind with ⟨rfl, rfl⟩ | ⟨rfl, rfl⟩ <;>
      simp only [Setting.convertWith_emphasis, Setting.convertWith_strong, hX, bind, Except.bind,
        pure, Except.pure, Except.ok.injEq] at hf <;>
      exact ⟨_, X, rfl, hf.symm⟩

theorem Setting.exists_delimitedFragment {s : Setting} {c : Cursor} {r : Rule}
    (hr : r = .emphasis ∨ r = .strong) {f : Fragment} (hf : s.convertWith r c = .ok f) :
    ∃ kind delim X, s.convertChildren c = .ok X ∧ f = delimitedFragment kind delim c X := by
  rcases hr with rfl | rfl
  · obtain ⟨delim, X, hX, rfl⟩ := Setting.convertWith_delimited (.inl ⟨rfl, rfl⟩) hf
    exact ⟨_, delim, X, hX, rfl⟩
  · obtain ⟨delim, X, hX, rfl⟩ := Setting.convertWith_delimited (.inr ⟨rfl, rfl⟩) hf
    exact ⟨_, delim, X, hX, rfl⟩

/-- Emphasis escapes its closing delimiter exactly when its children end in an odd run of three or
more backslashes. -/
theorem delimited_closing_escaped_iff {s : Setting} {c : Cursor} {r : Rule}
    (hr : r = .emphasis ∨ r = .strong) {f : Fragment} (hf : s.convertWith r c = .ok f) :
    ∃ X, s.convertChildren c = .ok X ∧
      (trailingBackslashes f.content.toList % 2 = 1 ↔
        trailingBackslashes X.toList % 2 = 1 ∧ 3 ≤ trailingBackslashes X.toList) := by
  obtain ⟨kind, delim, X, hX, rfl⟩ := Setting.exists_delimitedFragment hr hf
  refine ⟨X, hX, ?_⟩
  rw [trailingBackslashes_delimitedFragment]
  split <;> omega

def threeBackslashEmphasis : Cursor :=
  .root (.element "em" [] [.text "a\\\\\\"])

theorem convertWith_threeBackslashEmphasis :
    Setting.standard.convertWith .emphasis threeBackslashEmphasis =
      .ok ⟨"*", "a\\\\\\\\\\", "*"⟩ := by
  have htext : threeBackslashEmphasis.children = [⟨.text "a\\\\\\", [⟨threeBackslashEmphasis.node, 0⟩]⟩] :=
    rfl
  have hconv : Setting.standard.convert ⟨.text "a\\\\\\", [⟨threeBackslashEmphasis.node, 0⟩]⟩ =
      .ok "a\\\\\\\\\\" := by
    rw [Setting.convert_of_ok (r := .text) (by decide) (Setting.convertWith_text _ _)]
    exact congrArg Except.ok (by decide +kernel)
  have hchild : Setting.standard.convertChildren threeBackslashEmphasis = .ok "a\\\\\\\\\\" := by
    rw [Setting.convertChildren_eq, htext, List.foldlM_cons, hconv]
    rfl
  rw [Setting.convertWith_emphasis, hchild]
  exact congrArg Except.ok (by decide)

theorem delimited_closing_escaped_three_backslashes :
    Setting.standard.convertWith .emphasis threeBackslashEmphasis =
        .ok ⟨"*", "a\\\\\\\\\\", "*"⟩ ∧
      ∃ X, Setting.standard.convertChildren threeBackslashEmphasis = .ok X ∧
        (trailingBackslashes "a\\\\\\\\\\".toList % 2 = 1 ↔
          trailingBackslashes X.toList % 2 = 1 ∧ 3 ≤ trailingBackslashes X.toList) :=
  ⟨convertWith_threeBackslashEmphasis,
    delimited_closing_escaped_iff (.inl rfl) convertWith_threeBackslashEmphasis⟩

theorem emphasis_closing_delimiter_escaped :
    Setting.standard.convertWith .emphasis threeBackslashEmphasis =
        .ok ⟨"*", "a\\\\\\\\\\", "*"⟩ ∧
      trailingBackslashes "a\\\\\\\\\\".toList = 5 :=
  ⟨convertWith_threeBackslashEmphasis, by decide⟩

end HtmlMarkdown
