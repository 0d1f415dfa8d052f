namespace HtmlMarkdown

theorem length_drop_le (n : Nat) (cs : List Char) : (cs.drop n).length ≤ cs.length := by
  simp

theorem length_dropWhile_le (p : Char → Bool) (cs : List Char) :
    (cs.dropWhile p).length ≤ cs.length :=
  (List.dropWhile_suffix p).length_le

theorem length_lt_of_dropWhile_eq_cons {p : Char → Bool} {l after : List Char} {c : Char}
    (h : l.dropWhile p = c :: after) : after.length < l.length := by
  have := (List.dropWhile_suffix p (l := l)).length_le
  rw [h] at this
  simp at this
  omega

end HtmlMarkdown
