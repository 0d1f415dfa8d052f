import Mathlib.Data.List.Infix
import Mathlib.Data.List.TakeWhile
import HtmlMarkdown.Markup.Url

namespace HtmlMarkdown

def isAsciiControl (c : Char) : Bool := c.toNat < 0x20 || c.toNat == 0x7F

def slugChar (c : Char) : Char := if c == '(' || c == ')' || c == ' ' then '-' else c

/-- One character read into a reversed slug; a dash right after a dash is left out. -/
def slugPush (acc : List Char) (c : Char) : List Char :=
  if slugChar c == '-' && acc.head? == some '-' then acc else slugChar c :: acc

theorem anchorSlug_eq (cs : List Char) :
    anchorSlug cs = ((cs.foldl slugPush []).dropWhile (· == '-')).reverse := rfl

theorem slugChar_cases (c : Char) :
    (slugChar c = c ∧ c ≠ '(' ∧ c ≠ ')' ∧ c ≠ ' ') ∨
      (slugChar c = '-' ∧ (c = '(' ∨ c = ')' ∨ c = ' ')) := by
  unfold slugChar
  split
  · next h =>
    simp only [Bool.or_eq_true, beq_iff_eq, or_assoc] at h
    exact .inr ⟨rfl, h⟩
  · next h =>
    simp only [Bool.or_eq_true, beq_iff_eq, not_or] at h
    exact .inl ⟨rfl, h.1.1, h.1.2, h.2⟩

theorem slugChar_ne (c : Char) :
    slugChar c ≠ '(' ∧ slugChar c ≠ ')' ∧ slugChar c ≠ ' ' := by
  rcases slugChar_cases c with ⟨h, hne⟩ | ⟨h, -⟩
  · rw [h]
    exact hne
  · rw [h]
    decide

theorem slugChar_apply {p : Char → Bool} (hp : ∀ c ∈ ['(', ')', ' ', '-'], p c = false)
    (c : Char) : p (slugChar c) = p c := by
  rcases slugChar_cases c with ⟨h, -⟩ | ⟨h, (rfl | rfl | rfl)⟩ <;> simp [h, hp]

theorem slugChar_eq_self {p : Char → Bool} (hp : ∀ c ∈ ['(', ')', ' ', '-'], p c = false)
    {c : Char} (hc : p c = true) : slugChar c = c := by
  rcases slugChar_cases c with ⟨h, -⟩ | ⟨-, (rfl | rfl | rfl)⟩
  · exact h
  all_goals simp [hp] at hc

theorem slugPush_cases (acc : List Char) (c : Char) :
    (slugChar c = '-' ∧ acc.head? = some '-' ∧ slugPush acc c = acc) ∨
      (¬(slugChar c = '-' ∧ acc.head? = some '-') ∧ slugPush acc c = slugChar c :: acc) := by
  unfold slugPush
  by_cases h : slugChar c = '-' ∧ acc.head? = some '-'
  · exact .inl ⟨h.1, h.2, by simp [h]⟩
  · refine .inr ⟨h, ?_⟩
    rw [if_neg]
    simpa only [Bool.and_eq_true, beq_iff_eq] using h

theorem foldl_slugPush_induction {P : List Char → Prop}
    (step : ∀ acc c, P acc → P (slugPush acc c)) {acc : List Char} (h : P acc)
    (cs : List Char) : P (cs.foldl slugPush acc) := by
  induction cs generalizing acc with
  | nil => exact h
  | cons c cs ih => exact ih (step acc c h)

theorem mem_foldl_slugPush {cs acc : List Char} {x : Char} (h : x ∈ cs.foldl slugPush acc)
    (hacc : ∀ y ∈ acc, y ≠ '(' ∧ y ≠ ')' ∧ y ≠ ' ') :
    x ≠ '(' ∧ x ≠ ')' ∧ x ≠ ' ' := by
  refine foldl_slugPush_induction (P := fun l => ∀ y ∈ l, y ≠ '(' ∧ y ≠ ')' ∧ y ≠ ' ')
    (fun acc c hacc => ?_) hacc cs x h
  rcases slugPush_cases acc c with ⟨-, -, he⟩ | ⟨-, he⟩
  · rwa [he]
  · intro y hy
    rw [he, List.mem_cons] at hy
    rcases hy with rfl | hy
    · exact slugChar_ne c
    · exact hacc y hy

theorem not_dashDash_slugPush {acc : List Char} (h : ¬['-', '-'] <:+: acc) (c : Char) :
    ¬['-', '-'] <:+: slugPush acc c := by
  rcases slugPush_cases acc c with ⟨-, -, he⟩ | ⟨hne, he⟩
  · rwa [he]
  · rw [he, List.infix_cons_iff]
    rintro (hp | hi)
    · -- a pair of dashes at the front means a dash pushed on a dash
      obtain ⟨hc, t, rfl⟩ := List.cons_prefix_cons.1 hp
      exact hne ⟨hc.symm, rfl⟩
    · exact h hi

theorem filter_slugPush {p : Char → Bool} (hp : ∀ c ∈ ['(', ')', ' ', '-'], p c = false)
    (acc : List Char) (c : Char) : (slugPush acc c).filter p = (c :: acc).filter p := by
  rcases slugPush_cases acc c with ⟨hc, -, he⟩ | ⟨-, he⟩
  · have : p c = false := by rw [← slugChar_apply hp, hc]; exact hp '-' (by simp)
    rw [he, List.filter_cons, this]
    rfl
  · rw [he, List.filter_cons, List.filter_cons, slugChar_apply hp]
    split
    · next hpc => rw [slugChar_eq_self hp hpc]
    · rfl

theorem filter_foldl_slugPush {p : Char → Bool} (hp : ∀ c ∈ ['(', ')', ' ', '-'], p c = false)
    (cs acc : List Char) : (cs.foldl slugPush acc).filter p = (cs.reverse ++ acc).filter p := by
  induction cs generalizing acc with
  | nil => rfl
  | cons c cs ih =>
    rw [List.foldl_cons, ih, List.filter_append, filter_slugPush hp, List.reverse_cons,
      List.append_assoc, List.filter_append]
    rfl

theorem filter_dropWhile_dash {p : Char → Bool} (hp : p '-' = false) (l : List Char) :
    (l.dropWhile (· == '-')).filter p = l.filter p := by
  have htake : (l.takeWhile (· == '-')).filter p = [] := by
    rw [List.filter_eq_nil_iff]
    intro a ha
    have hdash : a = '-' := by simpa using List.mem_takeWhile_imp ha
    simp [hdash, hp]
  conv_rhs => rw [← List.takeWhile_append_dropWhile (p := (· == '-')) (l := l)]
  rw [List.filter_append, htake, List.nil_append]

theorem mem_anchorSlug {cs : List Char} {x : Char} (h : x ∈ anchorSlug cs) :
    x ≠ '(' ∧ x ≠ ')' ∧ x ≠ ' ' := by
  rw [anchorSlug_eq, List.mem_reverse] at h
  exact mem_foldl_slugPush ((List.dropWhile_suffix _).subset h) (by simp)

theorem not_dashDash_anchorSlug (cs : List Char) : ¬['-', '-'] <:+: anchorSlug cs := by
  rw [anchorSlug_eq, ← List.reverse_infix, List.reverse_reverse]
  intro h
  exact foldl_slugPush_induction (P := fun l => ¬['-', '-'] <:+: l)
    (fun acc c h => not_dashDash_slugPush h c) (by simp) cs
    (h.trans (List.dropWhile_suffix _).isInfix)

theorem getLast?_anchorSlug (cs : List Char) : (anchorSlug cs).getLast? ≠ some '-' := by
  rw [anchorSlug_eq, List.getLast?_reverse]
  intro h
  have := List.head?_dropWhile_not (· == '-') (cs.foldl slugPush [])
  rw [h] at this
  simp at this

theorem filter_anchorSlug {p : Char → Bool} (hp : ∀ c ∈ ['(', ')', ' ', '-'], p c = false)
    (cs : List Char) : (anchorSlug cs).filter p = cs.filter p := by
  rw [anchorSlug_eq, List.filter_reverse, filter_dropWhile_dash (hp '-' (by simp)),
    filter_foldl_slugPush hp, List.append_nil, List.filter_reverse, List.reverse_reverse]

theorem head?_anchorSlug (rest : List Char) : (anchorSlug ('#' :: rest)).head? = some '#' := by
  have hbottom : ∃ l, rest.foldl slugPush ['#'] = l ++ ['#'] := by
    refine foldl_slugPush_induction (P := fun acc => ∃ l, acc = l ++ ['#'])
      (fun acc c ⟨l, hl⟩ => ?_) ⟨[], rfl⟩ rest
    rcases slugPush_cases acc c with ⟨-, -, he⟩ | ⟨-, he⟩
    · exact ⟨l, he.trans hl⟩
    · exact ⟨slugChar c :: l, by rw [he, hl, List.cons_append]⟩
  obtain ⟨l, hl⟩ := hbottom
  have hdrop : ∃ l', (l ++ ['#']).dropWhile (· == '-') = l' ++ ['#'] := by
    rw [List.dropWhile_append]
    split
    · exact ⟨[], by simp⟩
    · exact ⟨_, rfl⟩
  obtain ⟨l', hl'⟩ := hdrop
  rw [anchorSlug_eq, List.foldl_cons, show slugPush [] '#' = ['#'] from rfl, hl, hl',
    List.reverse_append]
  rfl

def percentChars (c : Char) : List Char :=
  if c = '(' then ['%', '2', '8']
  else if c = ')' then ['%', '2', '9']
  else if c = ' ' then ['%', '2', '0']
  else [c]

theorem mem_percentChars {c x : Char} (h : x ∈ percentChars c) :
    x ≠ '(' ∧ x ≠ ')' ∧ x ≠ ' ' := by
  unfold percentChars at h
  split_ifs at h with h1 h2 h3
  -- an encoded character is written with `%` and digits
  any_goals
    simp only [List.mem_cons, List.not_mem_nil, or_false] at h
    rcases h with rfl | rfl | rfl <;> decide
  rw [List.mem_singleton] at h
  subst h
  exact ⟨h1, h2, h3⟩

theorem filter_percentChars {p : Char → Bool}
    (hp : ∀ c ∈ ['(', ')', ' ', '%', '0', '2', '8', '9'], p c = false) (c : Char) :
    (percentChars c).filter p = [c].filter p := by
  unfold percentChars
  split_ifs with h1 h2 h3
  all_goals first | rfl | (subst_vars; simp [hp])

theorem filter_flatMap_percentChars {p : Char → Bool}
    (hp : ∀ c ∈ ['(', ')', ' ', '%', '0', '2', '8', '9'], p c = false) (cs : List Char) :
    (cs.flatMap percentChars).filter p = cs.filter p := by
  induction cs with
  | nil => rfl
  | cons c cs ih =>
    rw [List.flatMap_cons, List.filter_append, ih, filter_percentChars hp, ← List.filter_append,
      List.singleton_append]

theorem encodeUrl_toList (u : String) :
    (encodeUrl u).toList =
      if (trimWhite u).toList.head? = some '#' then anchorSlug (trimWhite u).toList
      else (trimWhite u).toList.flatMap percentChars := by
  rw [trimWhite, String.toList_ofList]
  unfold encodeUrl
  dsimp only
  generalize stripWhite u.toList = cs
  split
  · simp
  · next hne =>
    have hhead : cs.head? ≠ some '#' := by
      intro h
      obtain ⟨t, rfl⟩ := List.head?_eq_some_iff.1 h
      exact hne t rfl
    rw [if_neg hhead, String.toList_join, List.flatMap_map]
    congr 1
    funext c
    split <;> simp_all [percentChars]

theorem mem_encodeUrl {u : String} {x : Char} (h : x ∈ (encodeUrl u).toList) :
    x ≠ '(' ∧ x ≠ ')' ∧ x ≠ ' ' := by
  rw [encodeUrl_toList] at h
  split at h
  · exact mem_anchorSlug h
  · obtain ⟨c, -, hx⟩ := List.mem_flatMap.1 h
    exact mem_percentChars hx

theorem filter_encodeUrl {p : Char → Bool}
    (hp : ∀ c ∈ ['(', ')', ' ', '-', '%', '0', '2', '8', '9'], p c = false) (u : String) :
    (encodeUrl u).toList.filter p = (trimWhite u).toList.filter p := by
  rw [encodeUrl_toList]
  split
  · refine filter_anchorSlug (fun c hc => hp c ?_) _
    simp only [List.mem_cons, List.not_mem_nil, or_false] at hc ⊢
    rcases hc with rfl | rfl | rfl | rfl <;> simp
  · refine filter_flatMap_percentChars (fun c hc => hp c ?_) _
    simp only [List.mem_cons, List.not_mem_nil, or_false] at hc ⊢
    rcases hc with rfl | rfl | rfl | rfl | rfl | rfl | rfl | rfl <;> simp

theorem encodeUrl_anchor {u : String} (h : (trimWhite u).toList.head? = some '#') :
    (encodeUrl u).toList.head? = some '#' ∧ ¬['-', '-'] <:+: (encodeUrl u).toList ∧
      (encodeUrl u).toList.getLast? ≠ some '-' := by
  rw [encodeUrl_toList, if_pos h]
  obtain ⟨rest, hrest⟩ := List.head?_eq_some_iff.1 h
  rw [hrest]
  exact ⟨head?_anchorSlug rest, not_dashDash_anchorSlug _, getLast?_anchorSlug _⟩

/-- An encoded target has no parenthesis or space and keeps its ASCII control characters. -/
theorem encodeUrl_parenthesis_safe (u : String) :
    '(' ∉ (encodeUrl u).toList ∧ ')' ∉ (encodeUrl u).toList ∧
      ' ' ∉ (encodeUrl u).toList ∧
      (encodeUrl u).toList.filter isAsciiControl = (trimWhite u).toList.filter isAsciiControl ∧
      ((trimWhite u).toList.head? = some '#' →
        (encodeUrl u).toList.head? = some '#' ∧ ¬['-', '-'] <:+: (encodeUrl u).toList ∧
          (encodeUrl u).toList.getLast? ≠ some '-') := by
  have hcontrol :
      ∀ c ∈ ['(', ')', ' ', '-', '%', '0', '2', '8', '9'], isAsciiControl c = false := by
    intro c hc
    simp only [List.mem_cons, List.not_mem_nil, or_false] at hc
    rcases hc with rfl | rfl | rfl | rfl | rfl | rfl | rfl | rfl | rfl <;> rfl
  exact ⟨fun h => (mem_encodeUrl h).1 rfl, fun h => (mem_encodeUrl h).2.1 rfl,
    fun h => (mem_encodeUrl h).2.2 rfl, filter_encodeUrl hcontrol u, encodeUrl_anchor⟩

theorem encodeUrl_parenthesis_safe_anchor :
    (trimWhite " #Section (One) two ").toList.head? = some '#' ∧
      (encodeUrl " #Section (One) two ").toList.head? = some '#' ∧
      ¬['-', '-'] <:+: (encodeUrl " #Section (One) two ").toList ∧
      (encodeUrl " #Section (One) two ").toList.getLast? ≠ some '-' := by
  have h : (trimWhite " #Section (One) two ").toList.head? = some '#' := by decide
  exact ⟨h, (encodeUrl_parenthesis_safe " #Section (One) two ").2.2.2.2 h⟩

theorem encodeUrl_keeps_tab :
    isAsciiControl '\t' = true ∧ '\t' ∈ (encodeUrl "a\tb").toList := by
  decide

end HtmlMarkdown
