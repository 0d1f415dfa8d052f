import Mathlib.Data.List.Infix
import Mathlib.Data.List.TakeWhile
import HtmlMarkdown.Text.Wrap

namespace HtmlMarkdown

instance instDecidableEqExcept {ε α : Type} [DecidableEq ε] [DecidableEq α] :
    DecidableEq (Except ε α)
  | .ok a, .ok b => if h : a = b then isTrue (h ▸ rfl) else isFalse fun e => h (Except.ok.inj e)
  | .error a, .error b =>
    if h : a = b then isTrue (h ▸ rfl) else isFalse fun e => h (Except.error.inj e)
  | .ok _, .error _ => isFalse nofun
  | .error _, .ok _ => isFalse nofun

def WhiteStart (cs : List Char) : Prop := ∀ c ∈ cs.head?, isWhite c = true

theorem isPrefixOf_append_of_head {pat V X : List Char} (hV : V ≠ [])
    (hX : ∀ c ∈ X.head?, c ∉ pat.tail) : pat.isPrefixOf (V ++ X) = pat.isPrefixOf V := by
  induction pat generalizing V with
  | nil => simp [List.isPrefixOf]
  | cons p ps ih =>
    cases V with
    | nil => exact absurd rfl hV
    | cons v V =>
      simp only [List.cons_append, List.isPrefixOf]
      congr 1
      by_cases empty : V = []
      · subst empty
        cases ps with
        | nil => simp [List.isPrefixOf]
        | cons q qs =>
          cases X with
          | nil => simp [List.isPrefixOf]
          | cons x X =>
            have hx : x ≠ q := fun h => hX x (by simp) (by simp [h])
            simp [List.isPrefixOf, hx.symm]
      · exact ih empty fun c hc hm => hX c hc (List.mem_of_mem_tail hm)

theorem findSeq?_append (pat U X : List Char) (hX : ∀ c ∈ X.head?, c ∉ pat.tail) :
    findSeq? pat (U ++ X) = (findSeq? pat U).or ((findSeq? pat X).map (U.length + ·)) := by
  induction U with
  | nil =>
    cases pat with
    | nil => cases X <;> simp [findSeq?, List.isPrefixOf]
    | cons p ps => simp [findSeq?]
  | cons u U ih =>
    have hp := isPrefixOf_append_of_head (V := u :: U) (List.cons_ne_nil u U) hX
    simp only [List.cons_append] at hp
    simp only [List.cons_append, findSeq?, hp]
    split
    · simp
    · rw [ih, Option.map_or, Option.map_map]
      congr 1
      congr 1
      funext i
      simp only [Function.comp_apply, List.length_cons]
      omega

theorem findSeq?_nil_pattern (cs : List Char) : findSeq? [] cs = some 0 := by
  cases cs <;> simp [findSeq?, List.isPrefixOf]

theorem isSome_findSeq?_iff (pat cs : List Char) : (findSeq? pat cs).isSome ↔ pat <:+: cs := by
  induction cs with
  | nil => cases pat <;> simp [findSeq?]
  | cons c cs ih =>
    rw [List.infix_cons_iff, ← ih, ← List.isPrefixOf_iff_prefix]
    simp only [findSeq?]
    split <;> simp_all

theorem findSeq?_add_length_le {pat cs : List Char} {i : Nat} (h : findSeq? pat cs = some i) :
    i + pat.length ≤ cs.length := by
  induction cs generalizing i with
  | nil =>
    cases pat with
    | nil => simp [findSeq?] at h; omega
    | cons p ps => simp [findSeq?] at h
  | cons c cs ih =>
    simp only [findSeq?] at h
    split at h
    · next hp =>
      cases h
      have := (List.isPrefixOf_iff_prefix.1 hp).length_le
      simpa using this
    · obtain ⟨j, hj, rfl⟩ := Option.map_eq_some_iff.1 h
      have := ih hj
      simp only [List.length_cons]
      omega

theorem findSeq?_append_of_found {pat U X : List Char} {i : Nat} (hX : ∀ c ∈ X.head?, c ∉ pat.tail)
    (h : findSeq? pat U = some i) : findSeq? pat (U ++ X) = some i := by
  rw [findSeq?_append pat U X hX, h]
  rfl

theorem findSeq?_of_append_le {pat U X : List Char} {i : Nat} (hX : ∀ c ∈ X.head?, c ∉ pat.tail)
    (h : findSeq? pat (U ++ X) = some i) (hi : i + pat.length ≤ U.length) :
    findSeq? pat U = some i := by
  rw [findSeq?_append pat U X hX] at h
  cases hU : findSeq? pat U with
  | some j => rw [hU] at h; exact h
  | none =>
    rw [hU] at h
    obtain ⟨j, _, rfl⟩ := Option.map_eq_some_iff.1 (by simpa using h)
    cases pat with
    | nil => simp [findSeq?_nil_pattern] at hU
    | cons p ps => simp only [List.length_cons] at hi; omega

theorem findSeq?_append_none {pat U X : List Char} (hX : ∀ c ∈ X.head?, c ∉ pat.tail)
    (h : findSeq? pat (U ++ X) = none) : findSeq? pat U = none ∧ findSeq? pat X = none := by
  rw [findSeq?_append pat U X hX] at h
  simp only [Option.or_eq_none_iff, Option.map_eq_none_iff] at h
  exact h

theorem findSeq?_isSome_of_mem {d : Char} {cs : List Char} (h : d ∈ cs) :
    (findSeq? [d] cs).isSome := by
  rw [isSome_findSeq?_iff, List.singleton_infix_iff]
  exact h

theorem findSeq?_eq_none_of_not_mem {d : Char} {cs : List Char} (h : d ∉ cs) :
    findSeq? [d] cs = none := by
  rw [← Option.not_isSome_iff_eq_none, isSome_findSeq?_iff, List.singleton_infix_iff]
  exact h

theorem findSeq?_append_eq_none {pat U X : List Char} (hX : ∀ c ∈ X.head?, c ∉ pat.tail)
    (hU : findSeq? pat U = none) (hx : findSeq? pat X = none) : findSeq? pat (U ++ X) = none := by
  rw [findSeq?_append pat U X hX, hU, hx]
  rfl

theorem prefix_drop_of_findSeq? {pat cs : List Char} {i : Nat} (h : findSeq? pat cs = some i) :
    pat <+: cs.drop i := by
  induction cs generalizing i with
  | nil =>
    cases pat with
    | nil => exact List.nil_prefix
    | cons p ps => simp [findSeq?] at h
  | cons c cs ih =>
    simp only [findSeq?] at h
    split at h
    · next hp =>
      cases h
      exact List.isPrefixOf_iff_prefix.1 hp
    · obtain ⟨j, hj, rfl⟩ := Option.map_eq_some_iff.1 h
      exact ih hj

theorem findSeq?_le_of_prefix_drop {pat cs : List Char} {k : Nat} (h : pat <+: cs.drop k) :
    ∃ i ≤ k, findSeq? pat cs = some i := by
  induction cs generalizing k with
  | nil =>
    cases pat with
    | nil => exact ⟨0, Nat.zero_le _, findSeq?_nil_pattern []⟩
    | cons p ps => simp at h
  | cons c cs ih =>
    simp only [findSeq?]
    split
    · exact ⟨0, Nat.zero_le _, rfl⟩
    · next hp =>
      cases k with
      | zero => exact absurd (List.isPrefixOf_iff_prefix.2 h) hp
      | succ k =>
        obtain ⟨i, hi, hf⟩ := ih (k := k) (by simpa using h)
        exact ⟨i + 1, by omega, by rw [hf]; rfl⟩

theorem WhiteStart.head_not_mem {X : List Char} (hX : WhiteStart X) {pat : List Char}
    (hp : pat.tail.all (fun d => !isWhite d) = true) : ∀ c ∈ X.head?, c ∉ pat.tail := by
  intro c hc hm
  have := List.all_eq_true.1 hp c hm
  simp [hX c hc] at this

theorem takeWhile_solid_of_whiteStart {X : List Char} (hX : WhiteStart X) :
    X.takeWhile (fun c => !isWhite c) = [] := by
  cases X with
  | nil => rfl
  | cons x X => simp [hX x rfl]

theorem solidLength_le (cs : List Char) : solidLength cs ≤ cs.length :=
  List.IsPrefix.length_le <| List.takeWhile_prefix _

theorem solidLength_append {T X : List Char} (hX : WhiteStart X) :
    solidLength (T ++ X) = solidLength T := by
  unfold solidLength
  rw [List.takeWhile_append]
  split
  · next h => rw [takeWhile_solid_of_whiteStart hX, List.append_nil, h]
  · rfl

theorem extendSolid_append {T X : List Char} {m : Nat} (hm : m ≤ T.length) (hX : WhiteStart X) :
    extendSolid (T ++ X) m = extendSolid T m := by
  unfold extendSolid
  rw [List.drop_append_of_le_length hm, solidLength_append hX]

theorem le_extendSolid (cs : List Char) (m : Nat) : m ≤ extendSolid cs m := by
  unfold extendSolid
  omega

theorem extendSolid_le {cs : List Char} {m : Nat} (hm : m ≤ cs.length) :
    extendSolid cs m ≤ cs.length := by
  have := solidLength_le (cs.drop m)
  simp only [List.length_drop] at this
  unfold extendSolid
  omega

theorem whiteStart_dropWhile (cs : List Char) : WhiteStart (cs.dropWhile fun c => !isWhite c) := by
  intro c hc
  have := List.head?_dropWhile_not (fun c => !isWhite c) cs
  rw [Option.mem_def.1 hc] at this
  simpa using this

theorem drop_length_takeWhile (p : Char → Bool) (cs : List Char) :
    cs.drop (cs.takeWhile p).length = cs.dropWhile p := by
  conv => lhs; rw [← List.takeWhile_append_dropWhile (p := p) (l := cs)]
  exact List.drop_left' (by rw [List.takeWhile_append_dropWhile])

theorem whiteStart_drop_extendSolid (cs : List Char) (m : Nat) :
    WhiteStart (cs.drop (extendSolid cs m)) := by
  rw [extendSolid, ← List.drop_drop, solidLength, drop_length_takeWhile]
  exact whiteStart_dropWhile _

theorem linkTail?_eq_some {ds : List Char} {e : Nat} :
    linkTail? ds = some e ↔ ∃ i j, findSeq? [']', '('] ds = some i ∧
      findSeq? [')'] (ds.drop (i + 2)) = some j ∧ i + 2 + j + 1 = e := by
  simp [linkTail?, Option.bind_eq_some_iff]

theorem linkTail?_eq_none {ds : List Char} :
    linkTail? ds = none ↔ ∀ i, findSeq? [']', '('] ds = some i →
      findSeq? [')'] (ds.drop (i + 2)) = none := by
  simp [linkTail?, ← Option.eq_none_iff_forall_ne_some]

theorem linkTail?_isSome_iff {ds : List Char} :
    (linkTail? ds).isSome ↔ ∃ P Q, ds = P ++ ']' :: '(' :: Q ∧ ')' ∈ Q := by
  constructor
  · intro h
    obtain ⟨e, he⟩ := Option.isSome_iff_exists.1 h
    obtain ⟨i, j, hi, hj, -⟩ := linkTail?_eq_some.1 he
    obtain ⟨R, hR⟩ := prefix_drop_of_findSeq? hi
    refine ⟨ds.take i, R, ?_, ?_⟩
    · calc ds = ds.take i ++ ds.drop i := (List.take_append_drop i ds).symm
        _ = ds.take i ++ ']' :: '(' :: R := by rw [← hR]; rfl
    · have hd : ds.drop (i + 2) = R := by
        rw [← List.drop_drop, ← hR]
        rfl
      rw [hd] at hj
      rw [← List.singleton_infix_iff, ← isSome_findSeq?_iff, hj]
      rfl
  · rintro ⟨P, Q, rfl, hQ⟩
    obtain ⟨i, hi, hf⟩ : ∃ i ≤ P.length, findSeq? [']', '('] (P ++ ']' :: '(' :: Q) = some i :=
      findSeq?_le_of_prefix_drop (by simp)
    -- the closing parenthesis lies after the first `](`, which is no later than this one
    have hsuf : Q <:+ (P ++ ']' :: '(' :: Q).drop (i + 2) := by
      have : P ++ ']' :: '(' :: Q = (P ++ [']', '(']) ++ Q := by simp
      rw [this, List.drop_append_of_le_length (by simp; omega)]
      exact List.suffix_append _ _
    obtain ⟨j, hj⟩ := Option.isSome_iff_exists.1
      (findSeq?_isSome_of_mem (hsuf.subset hQ))
    rw [linkTail?_eq_some.2 ⟨i, j, hf, hj, rfl⟩]
    rfl

theorem linkTail?_isSome_mono {A B : List Char} (h : (linkTail? A).isSome) (hAB : A <:+: B) :
    (linkTail? B).isSome := by
  obtain ⟨P, Q, rfl, hQ⟩ := linkTail?_isSome_iff.1 h
  obtain ⟨L, R, rfl⟩ := hAB
  exact linkTail?_isSome_iff.2 ⟨L ++ P, Q ++ R, by simp, List.mem_append_left R hQ⟩

theorem linkTail?_isSome_of_cons_space {ds : List Char} (h : (linkTail? (' ' :: ds)).isSome) :
    (linkTail? ds).isSome := by
  obtain ⟨P, Q, hP, hQ⟩ := linkTail?_isSome_iff.1 h
  cases P with
  | nil => simp at hP
  | cons p P =>
    simp only [List.cons_append, List.cons.injEq] at hP
    exact linkTail?_isSome_iff.2 ⟨P, Q, hP.2, hQ⟩

theorem linkTail?_isSome_of_split {A B : List Char} (hA : [']', '('] <:+: A) (hB : ')' ∈ B) :
    (linkTail? (A ++ B)).isSome := by
  obtain ⟨L, R, rfl⟩ := hA
  exact linkTail?_isSome_iff.2 ⟨L, R ++ B, by simp, List.mem_append_right R hB⟩

theorem linkTail?_append_isSome {A B : List Char} (hB : WhiteStart B)
    (h : (linkTail? (A ++ B)).isSome) :
    (linkTail? A).isSome ∨ ([']', '('] <:+: A ∧ ')' ∈ B) ∨ (linkTail? B).isSome := by
  obtain ⟨e, he⟩ := Option.isSome_iff_exists.1 h
  obtain ⟨i, j, hi, hj, -⟩ := linkTail?_eq_some.1 he
  rw [findSeq?_append _ _ _ (hB.head_not_mem (by decide))] at hi
  cases hA : findSeq? [']', '('] A with
  | some i' =>
    rw [hA] at hi
    cases hi
    have hb : i + 2 ≤ A.length := by simpa using findSeq?_add_length_le hA
    rw [List.drop_append_of_le_length hb] at hj
    have hm : ')' ∈ A.drop (i + 2) ++ B := by
      rw [← List.singleton_infix_iff, ← isSome_findSeq?_iff, hj]
      rfl
    rcases List.mem_append.1 hm with hm | hm
    · obtain ⟨j', hj'⟩ := Option.isSome_iff_exists.1 (findSeq?_isSome_of_mem hm)
      exact .inl (by rw [linkTail?_eq_some.2 ⟨i, j', hA, hj', rfl⟩]; rfl)
    · exact .inr (.inl ⟨(isSome_findSeq?_iff _ _).1 (by rw [hA]; rfl), hm⟩)
  | none =>
    rw [hA] at hi
    obtain ⟨k, hk, rfl⟩ := Option.map_eq_some_iff.1 (by simpa using hi)
    rw [Nat.add_assoc, List.drop_length_add_append] at hj
    exact .inr (.inr (by rw [linkTail?_eq_some.2 ⟨k, j, hk, hj, rfl⟩]; rfl))

section Context

variable {U X Y : List Char} (hX : WhiteStart X) (hY : WhiteStart Y)
include hX hY

theorem linkTail?_append_of_le {e : Nat} (h : linkTail? (U ++ Y) = some e) (he : e ≤ U.length) :
    linkTail? (U ++ X) = some e := by
  obtain ⟨i, j, hi, hj, rfl⟩ := linkTail?_eq_some.1 h
  have hb : i + 2 ≤ U.length := by omega
  have hiU : findSeq? [']', '('] U = some i :=
    findSeq?_of_append_le (hY.head_not_mem (by decide)) hi (by simpa using hb)
  rw [List.drop_append_of_le_length hb] at hj
  have hjU : findSeq? [')'] (U.drop (i + 2)) = some j :=
    findSeq?_of_append_le (by simp) hj (by simp; omega)
  refine linkTail?_eq_some.2 ⟨i, j, findSeq?_append_of_found (hX.head_not_mem (by decide)) hiU,
    ?_, rfl⟩
  rw [List.drop_append_of_le_length hb]
  exact findSeq?_append_of_found (by simp) hjU

theorem linkTail?_append_eq_none
    (close : ')' ∈ X → ')' ∈ Y) (link : (linkTail? X).isSome → (linkTail? Y).isSome)
    (h : linkTail? (U ++ Y) = none) : linkTail? (U ++ X) = none := by
  have nX : ∀ c ∈ X.head?, c ∉ [']', '('].tail := hX.head_not_mem (by decide)
  have nY : ∀ c ∈ Y.head?, c ∉ [']', '('].tail := hY.head_not_mem (by decide)
  rw [linkTail?_eq_none] at h ⊢
  intro i hi
  cases hU : findSeq? [']', '('] U with
  | some i' =>
    -- the first `](` is inside `U` on both lines; the closing parenthesis is looked for after it
    have hb : i' + 2 ≤ U.length := by simpa using findSeq?_add_length_le hU
    rw [findSeq?_append_of_found nX hU] at hi
    cases hi
    have hyi := h i (findSeq?_append_of_found nY hU)
    rw [List.drop_append_of_le_length hb] at hyi ⊢
    obtain ⟨hu, hy⟩ := findSeq?_append_none (by simp) hyi
    have hx : findSeq? [')'] X = none := findSeq?_eq_none_of_not_mem fun hm =>
      absurd (findSeq?_isSome_of_mem (close hm)) (by simp [hy])
    exact findSeq?_append_eq_none (by simp) hu hx
  | none =>
    -- the first `](` is past `U`: then `X` would hold a link tail, and so would `Y`
    rw [findSeq?_append _ _ _ nX, hU] at hi
    obtain ⟨k, hk, rfl⟩ := Option.map_eq_some_iff.1 (by simpa using hi)
    have linkY : linkTail? Y = none := by
      rw [linkTail?_eq_none]
      intro k' hk'
      have := h (U.length + k') (by rw [findSeq?_append _ _ _ nY, hU, hk']; rfl)
      rwa [Nat.add_assoc, List.drop_length_add_append] at this
    have linkX : linkTail? X = none := by
      cases hx : linkTail? X with
      | none => rfl
      | some _ => simp [hx, linkY] at link
    rw [Nat.add_assoc, List.drop_length_add_append]
    exact linkTail?_eq_none.1 linkX k hk

end Context

section Agree

variable {α β : Type} {l : List α} {f g : α → Option β}

theorem findSome?_eq_some_of_agree {v : β} (h : l.findSome? f = some v)
    (hnone : ∀ x ∈ l, f x = none → g x = none) (hsome : ∀ x ∈ l, f x = some v → g x = some v) :
    l.findSome? g = some v := by
  induction l with
  | nil => simp at h
  | cons a l ih =>
    cases hf : f a with
    | some w =>
      simp only [List.findSome?_cons, hf] at h
      cases h
      simp [hsome a List.mem_cons_self hf]
    | none =>
      simp only [List.findSome?_cons, hf] at h
      simp only [List.findSome?_cons, hnone a List.mem_cons_self hf]
      exact ih h (fun x hx => hnone x (List.mem_cons_of_mem a hx))
        (fun x hx => hsome x (List.mem_cons_of_mem a hx))

theorem findSome?_eq_none_of_agree (h : l.findSome? f = none)
    (hnone : ∀ x ∈ l, f x = none → g x = none) : l.findSome? g = none := by
  rw [List.findSome?_eq_none_iff] at h ⊢
  exact fun x hx => hnone x hx (h x hx)

end Agree

theorem lt_length_of_mem_range_solid {T : List Char} {b : Nat}
    (hb : b ∈ (List.range (solidLength T)).reverse) : b < T.length := by
  rw [List.mem_reverse, List.mem_range] at hb
  exact Nat.lt_of_lt_of_le hb (solidLength_le T)

theorem isPrefixOf_append_of_length_le {pat V Z : List Char} (h : pat.length ≤ V.length) :
    pat.isPrefixOf (V ++ Z) = pat.isPrefixOf V := by
  apply Bool.eq_iff_iff.2
  rw [List.isPrefixOf_iff_prefix, List.isPrefixOf_iff_prefix]
  exact ⟨fun hp => List.prefix_of_prefix_length_le hp (List.prefix_append V Z) h,
    fun hp => hp.trans (List.prefix_append V Z)⟩

theorem findSeq?_eq_none_of_infix_imp {pat X Y : List Char} (ht : pat <:+: X → pat <:+: Y)
    (hy : findSeq? pat Y = none) : findSeq? pat X = none := by
  rw [← Option.not_isSome_iff_eq_none, isSome_findSeq?_iff] at hy ⊢
  exact fun hx => hy (ht hx)

theorem findSeq?_eq_none_of_mem_imp {d : Char} {X Y : List Char} (ht : d ∈ X → d ∈ Y)
    (hy : findSeq? [d] Y = none) : findSeq? [d] X = none :=
  findSeq?_eq_none_of_infix_imp (by simpa only [List.singleton_infix_iff] using ht) hy

/-- The end of the link chunk whose opening bracket is at position `b`, if it has one. -/
def linkEndAt (cs : List Char) (b : Nat) : Option Nat :=
  if cs[b]? = some '[' then (linkTail? (cs.drop (b + 1))).map fun e => extendSolid cs (b + 1 + e)
  else none

theorem linkLength?_map_val (cs : List Char) :
    (linkLength? cs).map Subtype.val =
      (List.range (solidLength cs)).reverse.findSome? (linkEndAt cs) := by
  rw [linkLength?, List.map_findSome?]
  congr 1
  funext b
  simp only [Function.comp_apply, linkEndAt]
  split <;> simp [Option.map_map, Function.comp_def]

theorem codeLength?_map_val (cs : List Char) :
    (codeLength? cs).map Subtype.val =
      (findSeq? ['`'] (cs.take (solidLength cs))).bind fun b =>
        (findSeq? ['`'] (cs.drop (b + 1))).map fun j => extendSolid cs (b + 1 + j + 1) := by
  simp only [codeLength?]
  cases findSeq? ['`'] (cs.take (solidLength cs)) with
  | none => rfl
  | some b =>
    simp only [Option.bind_eq_bind, Option.bind_some]
    cases findSeq? ['`'] (cs.drop (b + 1)) <;> rfl

def opensShortcode (cs : List Char) : Bool :=
  3 ≤ solidLength cs && ['{', '{', '<', ' '].isPrefixOf (cs.drop (solidLength cs - 3))

theorem shortcodeLength?_map_val (cs : List Char) :
    (shortcodeLength? cs).map Subtype.val =
      if opensShortcode cs then
        (findSeq? [' ', '>', '}', '}'] (cs.drop (solidLength cs + 1))).map fun i =>
          extendSolid cs (solidLength cs + 1 + i + 4)
      else none := by
  unfold shortcodeLength?
  change Option.map Subtype.val (if opensShortcode cs = true then _ else none) = _
  split <;> simp [Option.map_map, Function.comp_def]

theorem eq_of_map_val {o : Option {n : Nat // 0 < n}} {v : {n : Nat // 0 < n}}
    (h : o.map Subtype.val = some v.1) : o = some v := by
  obtain ⟨w, hw, he⟩ := Option.map_eq_some_iff.1 h
  rw [hw, Subtype.ext he]

theorem opensShortcode_of_append_solid {V X Z : List Char} (hV : V.length = 3)
    (hZ : ∀ d ∈ Z.head?, d = ' ') (hZ0 : Z ≠ [])
    (h : ['{', '{', '<', ' '].isPrefixOf (V ++ X) = true) :
    ['{', '{', '<', ' '].isPrefixOf (V ++ Z) = true := by
  obtain ⟨z, Z, rfl⟩ := List.exists_cons_of_ne_nil hZ0
  obtain rfl : z = ' ' := hZ z rfl
  rcases V with _ | ⟨a, _ | ⟨b, _ | ⟨c, _ | ⟨d, V⟩⟩⟩⟩ <;> simp at hV
  cases X with
  | nil => simp [List.isPrefixOf] at h
  | cons x X =>
    simp [List.isPrefixOf] at h ⊢
    exact ⟨h.1, h.2.1, h.2.2.1⟩

theorem opensShortcode_append_solid {T Z : List Char} (hk : solidLength T = T.length)
    (hZ : WhiteStart Z) : opensShortcode (T ++ Z) =
      (decide (3 ≤ T.length) && ['{', '{', '<', ' '].isPrefixOf (T.drop (T.length - 3) ++ Z)) := by
  unfold opensShortcode
  rw [solidLength_append hZ, hk, List.drop_append_of_le_length (Nat.sub_le _ _)]

section Context

variable {T X Y : List Char} (hX : WhiteStart X) (hY : WhiteStart Y)
include hX hY

theorem linkEndAt_append_eq_none {b : Nat} (hb : b < T.length) (close : ')' ∈ X → ')' ∈ Y)
    (link : (linkTail? X).isSome → (linkTail? Y).isSome) (h : linkEndAt (T ++ Y) b = none) :
    linkEndAt (T ++ X) b = none := by
  unfold linkEndAt at h ⊢
  rw [List.getElem?_append_left hb, List.drop_append_of_le_length hb] at h ⊢
  by_cases hc : T[b]? = some '['
  · simp only [hc, if_true, Option.map_eq_none_iff] at h ⊢
    exact linkTail?_append_eq_none hX hY close link h
  · simp [hc]

theorem linkEndAt_append_of_le {b m : Nat} (hb : b < T.length) (h : linkEndAt (T ++ Y) b = some m)
    (hm : m ≤ T.length) : linkEndAt (T ++ X) b = some m := by
  unfold linkEndAt at h ⊢
  rw [List.getElem?_append_left hb, List.drop_append_of_le_length hb] at h ⊢
  by_cases hc : T[b]? = some '['
  · simp only [hc, if_true] at h ⊢
    obtain ⟨e, he, rfl⟩ := Option.map_eq_some_iff.1 h
    have hs : b + 1 + e ≤ T.length := (le_extendSolid _ _).trans hm
    rw [linkTail?_append_of_le hX hY he (by simp; omega), Option.map_some,
      extendSolid_append hs hX, extendSolid_append hs hY]
  · simp [hc] at h

theorem linkLength?_append_eq_none (close : ')' ∈ X → ')' ∈ Y)
    (link : (linkTail? X).isSome → (linkTail? Y).isSome) (h : linkLength? (T ++ Y) = none) :
    linkLength? (T ++ X) = none := by
  rw [← Option.map_eq_none_iff (f := Subtype.val), linkLength?_map_val] at h ⊢
  rw [solidLength_append hY] at h
  rw [solidLength_append hX]
  exact findSome?_eq_none_of_agree h fun b hb =>
    linkEndAt_append_eq_none hX hY (lt_length_of_mem_range_solid hb) close link

theorem linkLength?_append_of_le (close : ')' ∈ X → ')' ∈ Y)
    (link : (linkTail? X).isSome → (linkTail? Y).isSome) {v : {n : Nat // 0 < n}}
    (h : linkLength? (T ++ Y) = some v) (hv : v.1 ≤ T.length) : linkLength? (T ++ X) = some v := by
  have hv' : (linkLength? (T ++ Y)).map Subtype.val = some v.1 := by rw [h]; rfl
  rw [linkLength?_map_val, solidLength_append hY] at hv'
  apply eq_of_map_val
  rw [linkLength?_map_val, solidLength_append hX]
  exact findSome?_eq_some_of_agree hv'
    (fun b hb => linkEndAt_append_eq_none hX hY (lt_length_of_mem_range_solid hb) close link)
    (fun b hb hs => linkEndAt_append_of_le hX hY (lt_length_of_mem_range_solid hb) hs hv)

theorem codeLength?_append_eq_none (tick : '`' ∈ X → '`' ∈ Y) (h : codeLength? (T ++ Y) = none) :
    codeLength? (T ++ X) = none := by
  rw [← Option.map_eq_none_iff (f := Subtype.val), codeLength?_map_val] at h ⊢
  rw [solidLength_append hY, List.take_append_of_le_length (solidLength_le T)] at h
  rw [solidLength_append hX, List.take_append_of_le_length (solidLength_le T)]
  cases hb : findSeq? ['`'] (T.take (solidLength T)) with
  | none => rfl
  | some b =>
    have hbT : b + 1 ≤ T.length := by
      have := findSeq?_add_length_le hb
      simp only [List.length_take, List.length_cons, List.length_nil] at this
      omega
    rw [hb] at h
    simp only [Option.bind_some, Option.map_eq_none_iff] at h ⊢
    rw [List.drop_append_of_le_length hbT] at h ⊢
    obtain ⟨hu, hy⟩ := findSeq?_append_none (by simp) h
    exact findSeq?_append_eq_none (by simp) hu (findSeq?_eq_none_of_mem_imp tick hy)

theorem codeLength?_append_of_le {v : {n : Nat // 0 < n}} (h : codeLength? (T ++ Y) = some v)
    (hv : v.1 ≤ T.length) : codeLength? (T ++ X) = some v := by
  have hv' : (codeLength? (T ++ Y)).map Subtype.val = some v.1 := by rw [h]; rfl
  rw [codeLength?_map_val, solidLength_append hY,
    List.take_append_of_le_length (solidLength_le T)] at hv'
  apply eq_of_map_val
  rw [codeLength?_map_val, solidLength_append hX, List.take_append_of_le_length (solidLength_le T)]
  obtain ⟨b, hb, hj⟩ := Option.bind_eq_some_iff.1 hv'
  obtain ⟨j, hj, hve⟩ := Option.map_eq_some_iff.1 hj
  have hm : b + 1 + j + 1 ≤ T.length := (le_extendSolid _ _).trans (hve ▸ hv)
  rw [List.drop_append_of_le_length (by omega)] at hj
  have hjT : findSeq? ['`'] (T.drop (b + 1)) = some j :=
    findSeq?_of_append_le (by simp) hj (by simp; omega)
  rw [hb, Option.bind_some, List.drop_append_of_le_length (by omega),
    findSeq?_append_of_found (by simp) hjT, Option.map_some, extendSolid_append hm hX, ← hve,
    extendSolid_append hm hY]

theorem opensShortcode_append_of_lt (hk : solidLength T < T.length) :
    opensShortcode (T ++ X) = opensShortcode (T ++ Y) := by
  have hd : solidLength T - 3 ≤ T.length := by omega
  unfold opensShortcode
  rw [solidLength_append hX, solidLength_append hY, List.drop_append_of_le_length hd,
    List.drop_append_of_le_length hd]
  by_cases h3 : 3 ≤ solidLength T
  · rw [isPrefixOf_append_of_length_le (by simp; omega),
      isPrefixOf_append_of_length_le (by simp; omega)]
  · simp [h3]

theorem shortcodeLength?_append_of_le {v : {n : Nat // 0 < n}}
    (h : shortcodeLength? (T ++ Y) = some v) (hv : v.1 ≤ T.length) :
    shortcodeLength? (T ++ X) = some v := by
  have hv' : (shortcodeLength? (T ++ Y)).map Subtype.val = some v.1 := by rw [h]; rfl
  rw [shortcodeLength?_map_val] at hv'
  apply eq_of_map_val
  rw [shortcodeLength?_map_val]
  split at hv'
  · next ho =>
    rw [solidLength_append hY] at hv'
    obtain ⟨i, hi, hve⟩ := Option.map_eq_some_iff.1 hv'
    have hm : solidLength T + 1 + i + 4 ≤ T.length := (le_extendSolid _ _).trans (hve ▸ hv)
    rw [opensShortcode_append_of_lt hX hY (by omega), if_pos ho, solidLength_append hX]
    rw [List.drop_append_of_le_length (by omega)] at hi ⊢
    have hiT := findSeq?_of_append_le (hY.head_not_mem (by decide)) hi (by simp; omega)
    rw [findSeq?_append_of_found (hX.head_not_mem (by decide)) hiT, Option.map_some,
      extendSolid_append hm hX, ← hve, extendSolid_append hm hY]
  · simp at hv'

theorem shortcodeLength?_append_eq_none (hY0 : X ≠ [] → Y ≠ []) (hsp : ∀ d ∈ Y.head?, d = ' ')
    (closer : [' ', '>', '}', '}'] <:+: X → [' ', '>', '}', '}'] <:+: Y)
    (closerAfter : [' ', '>', '}', '}'] <:+: X.drop 1 → [' ', '>', '}', '}'] <:+: Y.drop 1)
    (h : shortcodeLength? (T ++ Y) = none) : shortcodeLength? (T ++ X) = none := by
  rw [← Option.map_eq_none_iff (f := Subtype.val), shortcodeLength?_map_val] at h ⊢
  rw [solidLength_append hY] at h
  rw [solidLength_append hX]
  rcases Nat.lt_or_ge (solidLength T) T.length with hlt | hge
  · -- the opening and the search for its closer both start inside `T`
    rw [opensShortcode_append_of_lt hX hY hlt]
    split at h
    · next ho =>
      rw [if_pos ho, Option.map_eq_none_iff, List.drop_append_of_le_length hlt]
      rw [Option.map_eq_none_iff, List.drop_append_of_le_length hlt] at h
      obtain ⟨hu, hy⟩ := findSeq?_append_none (hY.head_not_mem (by decide)) h
      exact findSeq?_append_eq_none (hX.head_not_mem (by decide)) hu
        (findSeq?_eq_none_of_infix_imp closer hy)
    · next ho => rw [if_neg ho]
  · -- the solid run is all of `T`: the space of the opening is the first character after it
    have hk : solidLength T = T.length := Nat.le_antisymm (solidLength_le T) hge
    split
    · next ho =>
      rw [opensShortcode_append_solid hk hX] at ho
      simp only [Bool.and_eq_true, decide_eq_true_eq] at ho
      obtain ⟨h3, hp⟩ := ho
      have hV : (T.drop (T.length - 3)).length = 3 := by simp; omega
      have hX0 : X ≠ [] := by
        rintro rfl
        have := (List.isPrefixOf_iff_prefix.1 hp).length_le
        simp at this
        omega
      have hoY : opensShortcode (T ++ Y) = true := by
        rw [opensShortcode_append_solid hk hY]
        simp [h3, opensShortcode_of_append_solid hV hsp (hY0 hX0) hp]
      rw [if_pos hoY, Option.map_eq_none_iff, hk, List.drop_length_add_append] at h
      rw [Option.map_eq_none_iff, hk, List.drop_length_add_append]
      exact findSeq?_eq_none_of_infix_imp closerAfter h
    · rfl

end Context

theorem wordLength_append {W X : List Char} (hW : ∀ c ∈ W, c ≠ ' ') (hX : ∀ d ∈ X.head?, d = ' ') :
    wordLength (W ++ X) = W.length + 1 := by
  unfold wordLength
  rw [List.takeWhile_append_of_pos (by simpa using hW)]
  cases X with
  | nil => simp; omega
  | cons x X => simp [hX x rfl]; omega

theorem not_space_of_wordLength {W Y : List Char} (h : wordLength (W ++ Y) = W.length + 1) :
    ∀ c ∈ W, c ≠ ' ' := by
  unfold wordLength at h
  have hlen : ((W ++ Y).takeWhile (· != ' ')).length = W.length := by omega
  have hpre : (W ++ Y).takeWhile (· != ' ') <+: W :=
    List.prefix_of_prefix_length_le (by exact List.takeWhile_prefix _) (List.prefix_append W Y) hlen.le
  intro c hc
  rw [← hpre.eq_of_length hlen] at hc
  simpa using List.mem_takeWhile_imp hc

theorem linkTail?_le_length {ds : List Char} {e : Nat} (h : linkTail? ds = some e) :
    e ≤ ds.length := by
  obtain ⟨i, j, hi, hj, rfl⟩ := linkTail?_eq_some.1 h
  have h1 := findSeq?_add_length_le hi
  have h2 := findSeq?_add_length_le hj
  simp only [List.length_drop, List.length_cons, List.length_nil] at h1 h2
  omega

theorem findSeq?_getElem? {pat cs : List Char} {i k : Nat} (h : findSeq? pat cs = some i)
    (hk : k < pat.length) : cs[i + k]? = pat[k]? := by
  have hp := List.prefix_iff_eq_take.1 (prefix_drop_of_findSeq? h)
  rw [hp, List.getElem?_take, if_pos hk, List.getElem?_drop]

theorem linkTail?_getElem? {ds : List Char} {e : Nat} (h : linkTail? ds = some e) :
    ds[e - 1]? = some ')' := by
  obtain ⟨i, j, -, hj, rfl⟩ := linkTail?_eq_some.1 h
  have := findSeq?_getElem? (k := 0) hj (by simp)
  rw [List.getElem?_drop] at this
  simpa using this

def SolidEnd (cs : List Char) (n : Nat) : Prop :=
  ∃ m, 0 < m ∧ m ≤ cs.length ∧ (∀ d ∈ cs[m - 1]?, isWhite d = false) ∧ n = extendSolid cs m

theorem solidEnd_linkLength? {cs : List Char} {v : {n : Nat // 0 < n}}
    (h : linkLength? cs = some v) : SolidEnd cs v.1 := by
  have hv : (linkLength? cs).map Subtype.val = some v.1 := by rw [h]; rfl
  rw [linkLength?_map_val] at hv
  obtain ⟨b, hb, he⟩ := List.exists_of_findSome?_eq_some hv
  have hbT := lt_length_of_mem_range_solid hb
  unfold linkEndAt at he
  split at he
  · obtain ⟨e, he, hve⟩ := Option.map_eq_some_iff.1 he
    have hle := linkTail?_le_length he
    have hpos : 0 < e := by
      obtain ⟨i, j, -, -, rfl⟩ := linkTail?_eq_some.1 he
      omega
    have hclose := linkTail?_getElem? he
    rw [List.getElem?_drop, show b + 1 + (e - 1) = b + 1 + e - 1 by omega] at hclose
    simp only [List.length_drop] at hle
    refine ⟨b + 1 + e, by omega, by omega, ?_, hve.symm⟩
    rw [hclose]
    intro d hd
    cases Option.some.inj hd
    decide
  · cases he

theorem solidEnd_codeLength? {cs : List Char} {v : {n : Nat // 0 < n}}
    (h : codeLength? cs = some v) : SolidEnd cs v.1 := by
  have hv : (codeLength? cs).map Subtype.val = some v.1 := by rw [h]; rfl
  rw [codeLength?_map_val] at hv
  obtain ⟨b, hb, hj⟩ := Option.bind_eq_some_iff.1 hv
  obtain ⟨j, hj, hve⟩ := Option.map_eq_some_iff.1 hj
  have h1 := findSeq?_add_length_le hb
  have h2 := findSeq?_add_length_le hj
  have htick := findSeq?_getElem? (k := 0) hj (by simp)
  rw [List.getElem?_drop] at htick
  simp only [List.length_take, List.length_drop, List.length_cons, List.length_nil] at h1 h2
  refine ⟨b + 1 + j + 1, by omega, by omega, ?_, hve.symm⟩
  rw [show b + 1 + j + 1 - 1 = b + 1 + (j + 0) by omega, htick]
  intro d hd
  cases Option.some.inj hd
  decide

theorem solidEnd_shortcodeLength? {cs : List Char} {v : {n : Nat // 0 < n}}
    (h : shortcodeLength? cs = some v) : SolidEnd cs v.1 := by
  have hv : (shortcodeLength? cs).map Subtype.val = some v.1 := by rw [h]; rfl
  rw [shortcodeLength?_map_val] at hv
  split at hv
  · obtain ⟨i, hi, hve⟩ := Option.map_eq_some_iff.1 hv
    have hle := findSeq?_add_length_le hi
    have hbrace := findSeq?_getElem? (k := 3) hi (by simp)
    rw [List.getElem?_drop] at hbrace
    simp only [List.length_drop, List.length_cons, List.length_nil] at hle
    refine ⟨solidLength cs + 1 + i + 4, by omega, by omega, ?_, hve.symm⟩
    rw [show solidLength cs + 1 + i + 4 - 1 = solidLength cs + 1 + (i + 3) by omega, hbrace]
    intro d hd
    cases Option.some.inj hd
    decide
  · cases hv

theorem extendSolid_bounds {cs : List Char} {n : Nat} (h : SolidEnd cs n) :
    n ≤ cs.length ∧ WhiteStart (cs.drop n) ∧ ∀ d ∈ cs[n - 1]?, isWhite d = false := by
  obtain ⟨m, hpos, hm, hlast, rfl⟩ := h
  refine ⟨extendSolid_le hm, whiteStart_drop_extendSolid cs m, ?_⟩
  intro d hd
  by_cases hs : solidLength (cs.drop m) = 0
  · rw [extendSolid, hs, Nat.add_zero] at hd
    exact hlast d hd
  · -- the last character is one of the solid run
    have hrun : (cs.drop m)[solidLength (cs.drop m) - 1]? = some d := by
      rw [List.getElem?_drop, show m + (solidLength (cs.drop m) - 1) =
        extendSolid cs m - 1 by unfold extendSolid; omega]
      exact hd
    have hpre := List.prefix_iff_eq_take.1 <| List.takeWhile_prefix (l := cs.drop m)
      fun c => !isWhite c
    have hmem : d ∈ (cs.drop m).takeWhile fun c => !isWhite c := by
      rw [hpre, List.mem_iff_getElem?]
      refine ⟨solidLength (cs.drop m) - 1, ?_⟩
      rw [List.getElem?_take, if_pos (by unfold solidLength at hs ⊢; omega)]
      exact hrun
    simpa using List.mem_takeWhile_imp hmem

theorem wordLength_bounds {c : Char} (rest : List Char) (hc : c ≠ ' ') :
    wordLength rest ≤ (c :: rest).length ∧
      (∀ d ∈ ((c :: rest).drop (wordLength rest)).head?, d = ' ') ∧
      ∀ d ∈ (c :: rest)[wordLength rest - 1]?, d ≠ ' ' := by
  have hd : (c :: rest).drop (wordLength rest) = rest.dropWhile (· != ' ') := by
    rw [wordLength, Nat.add_comm, List.drop_succ_cons, drop_length_takeWhile]
  have hlen := List.IsPrefix.length_le <| List.takeWhile_prefix (l := rest) (· != ' ')
  refine ⟨?_, ?_, ?_⟩
  · simp only [wordLength, List.length_cons]
    omega
  · intro d hd'
    rw [hd] at hd'
    have := List.head?_dropWhile_not (· != ' ') rest
    rw [Option.mem_def.1 hd'] at this
    simpa using this
  · -- the last character is the first one, or one of the run before the space
    intro d hd'
    simp only [wordLength] at hd'
    cases hw : (rest.takeWhile (· != ' ')).length with
    | zero =>
      rw [hw] at hd'
      obtain rfl : c = d := by simpa using hd'
      exact hc
    | succ w =>
      rw [hw, show 1 + (w + 1) - 1 = w + 1 by omega, List.getElem?_cons_succ] at hd'
      have hpre := List.prefix_iff_eq_take.1 <| List.takeWhile_prefix (l := rest) (· != ' ')
      have hmem : d ∈ rest.takeWhile (· != ' ') := by
        rw [hpre, List.mem_iff_getElem?]
        exact ⟨w, by rw [List.getElem?_take, if_pos (by omega)]; exact hd'⟩
      simpa using List.mem_takeWhile_imp hmem

theorem nextChunk_bounds {r : Bool} {c : Char} {rest : List Char} {k : ChunkKind}
    {n : {n : Nat // 0 < n}} (hc : c ≠ ' ') (h : nextChunk r c rest = (k, n)) :
    n.1 ≤ (c :: rest).length ∧ WhiteStart ((c :: rest).drop n.1) ∧
      (∀ d ∈ (c :: rest)[n.1 - 1]?, d ≠ ' ') ∧
      (k = .word → ∀ d ∈ ((c :: rest).drop n.1).head?, d = ' ') := by
  -- a link, a code span or a shortcode is a solid run, never a word
  have ofSolid : ∀ {m : Nat}, SolidEnd (c :: rest) m → m ≤ (c :: rest).length ∧
      WhiteStart ((c :: rest).drop m) ∧ ∀ d ∈ (c :: rest)[m - 1]?, d ≠ ' ' := by
    intro m hm
    obtain ⟨h1, h2, h3⟩ := extendSolid_bounds hm
    refine ⟨h1, h2, fun d hd hsp => ?_⟩
    have := h3 d hd
    rw [hsp, isWhite_space] at this
    cases this
  unfold nextChunk at h
  split at h
  · next v hl =>
    simp only [Prod.mk.injEq] at h
    obtain ⟨rfl, rfl⟩ := h
    obtain ⟨h1, h2, h3⟩ := ofSolid (solidEnd_linkLength? hl)
    exact ⟨h1, h2, h3, nofun⟩
  · split at h
    · next v hc =>
      simp only [Prod.mk.injEq] at h
      obtain ⟨rfl, rfl⟩ := h
      obtain ⟨h1, h2, h3⟩ := ofSolid (solidEnd_codeLength? hc)
      exact ⟨h1, h2, h3, nofun⟩
    · split at h
      · next v hs =>
        simp only [Prod.mk.injEq] at h
        obtain ⟨rfl, rfl⟩ := h
        have hs' : shortcodeLength? (c :: rest) = some v := by
          cases r
          · cases hs
          · exact hs
        obtain ⟨h1, h2, h3⟩ := ofSolid (solidEnd_shortcodeLength? hs')
        exact ⟨h1, h2, h3, nofun⟩
      · simp only [Prod.mk.injEq] at h
        obtain ⟨rfl, rfl⟩ := h
        obtain ⟨h1, hsp, h3⟩ := wordLength_bounds rest hc
        exact ⟨h1, fun d hd => by rw [hsp d hd]; exact isWhite_space, h3, fun _ => hsp⟩

/-- What may follow a chunk (`X`) in place of its own context (`Y`) so that it reads the same. -/
structure ChunkContext (X Y : List Char) : Prop where
  spaced : ∀ c ∈ X.head?, c = ' '
  nonempty : X ≠ [] → Y ≠ []
  close : ')' ∈ X → ')' ∈ Y
  tick : '`' ∈ X → '`' ∈ Y
  link : (linkTail? X).isSome → (linkTail? Y).isSome
  closer : [' ', '>', '}', '}'] <:+: X → [' ', '>', '}', '}'] <:+: Y
  closerAfter : [' ', '>', '}', '}'] <:+: X.drop 1 → [' ', '>', '}', '}'] <:+: Y.drop 1

theorem ChunkContext.whiteStart {X Y : List Char} (ctx : ChunkContext X Y) : WhiteStart X := by
  intro c hc
  rw [ctx.spaced c hc]
  exact isWhite_space

theorem wordLength_append_eq {W X Y : List Char} (hn : wordLength (W ++ Y) = W.length + 1)
    (hX : ∀ d ∈ X.head?, d = ' ') : wordLength (W ++ X) = wordLength (W ++ Y) := by
  rw [wordLength_append (not_space_of_wordLength hn) hX, hn]

theorem nextChunk_append {r : Bool} {c : Char} {W X Y : List Char} {k : ChunkKind}
    {n : {n : Nat // 0 < n}} (h : nextChunk r c (W ++ Y) = (k, n)) (hn : n.1 = W.length + 1)
    (hY : WhiteStart Y) (hword : k = .word → ∀ d ∈ Y.head?, d = ' ') (ctx : ChunkContext X Y) :
    nextChunk r c (W ++ X) = (k, n) := by
  have hX := ctx.whiteStart
  have hT : n.1 ≤ (c :: W).length := by simp [hn]
  unfold nextChunk at h ⊢
  rw [← List.cons_append] at h ⊢
  -- the readings are tried in turn; each keeps its answer on the new line
  cases hl : linkLength? (c :: W ++ Y) with
  | some v =>
    simp only [hl, Prod.mk.injEq] at h
    obtain ⟨rfl, rfl⟩ := h
    rw [linkLength?_append_of_le hX hY ctx.close ctx.link hl hT]
  | none =>
    simp only [hl] at h
    rw [linkLength?_append_eq_none hX hY ctx.close ctx.link hl]
    cases hc : codeLength? (c :: W ++ Y) with
    | some v =>
      simp only [hc, Prod.mk.injEq] at h
      obtain ⟨rfl, rfl⟩ := h
      rw [codeLength?_append_of_le hX hY hc hT]
    | none =>
      simp only [hc] at h
      rw [codeLength?_append_eq_none hX hY ctx.tick hc]
      cases r with
      | false =>
        simp only [Bool.false_eq_true, if_false, Prod.mk.injEq] at h
        obtain ⟨rfl, rfl⟩ := h
        exact Prod.ext rfl (Subtype.ext (wordLength_append_eq hn ctx.spaced))
      | true =>
        simp only [if_true] at h ⊢
        cases hs : shortcodeLength? (c :: W ++ Y) with
        | some v =>
          simp only [hs, Prod.mk.injEq] at h
          obtain ⟨rfl, rfl⟩ := h
          rw [shortcodeLength?_append_of_le hX hY hs hT]
        | none =>
          simp only [hs, Prod.mk.injEq] at h
          obtain ⟨rfl, rfl⟩ := h
          rw [shortcodeLength?_append_eq_none hX hY ctx.nonempty (hword rfl) ctx.closer
            ctx.closerAfter hs]
          exact Prod.ext rfl (Subtype.ext (wordLength_append_eq hn ctx.spaced))

theorem scanChunks_space (r : Bool) (rest : List Char) :
    scanChunks r (' ' :: rest) = scanChunks r rest := by
  rw [scanChunks]
  simp

theorem scanChunks_cons_of_nextChunk {r : Bool} {c : Char} {rest : List Char} {k : ChunkKind}
    {n : Nat} {hn : 0 < n} (hc : c ≠ ' ') (h : nextChunk r c rest = (k, ⟨n, hn⟩)) :
    scanChunks r (c :: rest) =
      ⟨k, String.ofList ((c :: rest).take n)⟩ :: scanChunks r ((c :: rest).drop n) := by
  rw [scanChunks]
  simp [hc, h]

theorem scanChunks_eq_cons {r : Bool} {Y : List Char} {ch : Chunk} {rest : List Chunk}
    (h : scanChunks r Y = ch :: rest) :
    ∃ m Y', Y = List.replicate m ' ' ++ ch.text.toList ++ Y' ∧ scanChunks r Y' = rest ∧
      WhiteStart Y' ∧ (∃ c t, ch.text.toList = c :: t ∧ c ≠ ' ') ∧
      ∀ d ∈ ch.text.toList.getLast?, d ≠ ' ' := by
  induction Y using scanChunks.induct r with
  | case1 => simp [scanChunks] at h
  | case2 Y ih =>
    rw [scanChunks_space] at h
    obtain ⟨m, Y', rfl, h1, h2, h3, h4⟩ := ih h
    exact ⟨m + 1, Y', by simp [List.replicate_succ], h1, h2, h3, h4⟩
  | case3 c Y hc k n hn hnext _ =>
    rw [scanChunks_cons_of_nextChunk hc hnext, List.cons.injEq] at h
    obtain ⟨rfl, rfl⟩ := h
    obtain ⟨hle, hY, hlast, -⟩ := nextChunk_bounds hc hnext
    obtain ⟨n, rfl⟩ : ∃ n', n = n' + 1 := ⟨n - 1, by omega⟩
    refine ⟨0, (c :: Y).drop (n + 1), by simp, rfl, hY, ⟨c, Y.take n, by simp, hc⟩, ?_⟩
    have he : (c :: Y)[n]? = some (c :: Y)[n] := List.getElem?_eq_getElem hle
    rw [String.toList_ofList, List.getLast?_take, if_neg (by omega)]
    rw [Nat.add_sub_cancel, he, Option.some_or]
    rw [Nat.add_sub_cancel, he] at hlast
    exact hlast

theorem scanChunks_eq_append {r : Bool} {L : List Char} {pre rest : List Chunk}
    (h : scanChunks r L = pre ++ rest) : ∃ L', L' <:+ L ∧ scanChunks r L' = rest := by
  induction pre generalizing L with
  | nil => exact ⟨L, List.suffix_refl L, h⟩
  | cons p pre ih =>
    obtain ⟨m, Y, rfl, hY, -⟩ := scanChunks_eq_cons h
    obtain ⟨L', hL', hscan⟩ := ih hY
    exact ⟨L', hL'.trans (List.suffix_append _ _), hscan⟩

/-- Each chunk of a line is a piece of it that neither starts nor ends with a space. -/
theorem mem_scanChunks {r : Bool} {L : List Char} {ch : Chunk} (h : ch ∈ scanChunks r L) :
    ch.text.toList <:+: L ∧ (∃ c t, ch.text.toList = c :: t ∧ c ≠ ' ') ∧
      ∀ d ∈ ch.text.toList.getLast?, d ≠ ' ' := by
  obtain ⟨pre, post, hsplit⟩ := List.append_of_mem h
  obtain ⟨L', hL', hscan⟩ := scanChunks_eq_append hsplit
  obtain ⟨m, Y, rfl, -, -, hfirst, hlast⟩ := scanChunks_eq_cons hscan
  exact ⟨(List.infix_append _ _ _).trans hL'.isInfix, hfirst, hlast⟩

theorem scanChunks_ne_nil {r : Bool} {L : List Char} (h : ∃ c ∈ L, c ≠ ' ') :
    scanChunks r L ≠ [] := by
  induction L using scanChunks.induct r with
  | case1 => simp at h
  | case2 rest ih =>
    rw [scanChunks_space]
    obtain ⟨c, hc, hne⟩ := h
    exact ih ⟨c, (List.mem_cons.1 hc).resolve_left hne, hne⟩
  | case3 c rest hc k n hn hnext _ =>
    rw [scanChunks_cons_of_nextChunk hc hnext]
    exact List.cons_ne_nil _ _

theorem infix_of_opensShortcode {cs : List Char} (h : opensShortcode cs = true) :
    ['{', '{', '<'] <:+: cs := by
  unfold opensShortcode at h
  simp only [Bool.and_eq_true] at h
  have hp := List.isPrefixOf_iff_prefix.1 h.2
  exact ((List.prefix_append ['{', '{', '<'] [' ']).trans hp).isInfix.trans
    (List.drop_suffix _ _).isInfix

theorem infix_of_nextChunk_shortcode {r : Bool} {c : Char} {rest : List Char}
    {n : {n : Nat // 0 < n}} (h : nextChunk r c rest = (.shortcode, n)) :
    ['{', '{', '<'] <:+: c :: rest := by
  unfold nextChunk at h
  split at h
  · simp at h
  · split at h
    · simp at h
    · split at h
      · next v hs =>
        have hs' : shortcodeLength? (c :: rest) = some v := by
          cases r
          · cases hs
          · exact hs
        have hv : (shortcodeLength? (c :: rest)).map Subtype.val = some v.1 := by rw [hs']; rfl
        rw [shortcodeLength?_map_val] at hv
        split at hv
        · next ho => exact infix_of_opensShortcode ho
        · cases hv
      · simp at h

theorem kind_ne_shortcode {r : Bool} {L : List Char} (hL : ¬['{', '{', '<'] <:+: L) {ch : Chunk}
    (h : ch ∈ scanChunks r L) : ch.kind ≠ .shortcode := by
  induction L using scanChunks.induct r with
  | case1 => simp [scanChunks] at h
  | case2 rest ih =>
    rw [scanChunks_space] at h
    exact ih (fun hr => hL (hr.trans (List.suffix_cons _ _).isInfix)) h
  | case3 c rest hc k n hn hnext ih =>
    rw [scanChunks_cons_of_nextChunk hc hnext, List.mem_cons] at h
    rcases h with rfl | h
    · intro hk
      subst hk
      exact hL (infix_of_nextChunk_shortcode hnext)
    · exact ih (fun hr => hL (hr.trans (List.drop_suffix _ _).isInfix)) h

/-- Chunks laid on one line: their texts joined by single spaces. -/
def joinChunks : List Chunk → List Char
  | [] => []
  | c :: cs => c.text.toList ++ cs.flatMap fun d => ' ' :: d.text.toList

theorem chunkContext_nil (Y : List Char) : ChunkContext [] Y where
  spaced := by simp
  nonempty := by simp
  close := by simp
  tick := by simp
  link := by simp [linkTail?, findSeq?]
  closer := by simp
  closerAfter := by simp

theorem mem_of_mem_spaced {d : Char} {t X' Y' : List Char} {m : Nat} (hd : d ≠ ' ')
    (h : d ∈ X' → d ∈ Y') (hm : d ∈ ' ' :: (t ++ X')) :
    d ∈ List.replicate m ' ' ++ t ++ Y' := by
  simp only [List.mem_cons, List.mem_append, hd, false_or] at hm
  rcases hm with hm | hm
  · exact List.mem_append_left _ (List.mem_append_right _ hm)
  · exact List.mem_append_right _ (h hm)

theorem infix_append_of_head {pat U X : List Char} (hX : ∀ c ∈ X.head?, c ∉ pat.tail)
    (h : pat <:+: U ++ X) : pat <:+: U ∨ pat <:+: X := by
  rw [← isSome_findSeq?_iff, findSeq?_append pat U X hX, Option.isSome_or,
    Option.isSome_map, Bool.or_eq_true] at h
  simpa only [isSome_findSeq?_iff] using h

theorem chunkContext_cons {X' Y' t : List Char} {m : Nat} (ctx : ChunkContext X' Y')
    (hY : WhiteStart (List.replicate m ' ' ++ t ++ Y')) (ht : ∃ c t', t = c :: t' ∧ c ≠ ' ') :
    ChunkContext (' ' :: (t ++ X')) (List.replicate m ' ' ++ t ++ Y') := by
  obtain ⟨c, t', rfl, hc⟩ := ht
  have hY'Y : Y' <:+: List.replicate m ' ' ++ c :: t' ++ Y' := (List.suffix_append _ _).isInfix
  have htY : c :: t' <:+: List.replicate m ' ' ++ c :: t' ++ Y' := List.infix_append _ _ _
  -- what follows the first character of the joined line still has all of `t'` and `Y'`
  have hdrop : t' ++ Y' <:+: (List.replicate m ' ' ++ c :: t' ++ Y').drop 1 := by
    cases m with
    | zero => exact List.infix_refl _
    | succ m => exact (List.IsSuffix.isInfix ⟨List.replicate m ' ' ++ [c], by simp⟩)
  have hsolid : ∀ c ∈ X'.head?, c ∉ [' ', '>', '}', '}'].tail :=
    ctx.whiteStart.head_not_mem (by decide)
  refine ⟨by simp, by simp, mem_of_mem_spaced (by decide) ctx.close,
    mem_of_mem_spaced (by decide) ctx.tick, ?_, ?_, ?_⟩
  · -- a link on the joined line lies in the chunk, spans chunk and context, or lies in the context
    intro h
    rcases linkTail?_append_isSome ctx.whiteStart (linkTail?_isSome_of_cons_space h) with
      h | ⟨ho, hcl⟩ | h
    · exact linkTail?_isSome_mono h htY
    · exact linkTail?_isSome_of_split (ho.trans (List.suffix_append _ _).isInfix) (ctx.close hcl)
    · exact linkTail?_isSome_mono (ctx.link h) hY'Y
  · -- a closer on the joined line starts at the space before the chunk, or lies further on
    intro h
    rcases infix_append_of_head hsolid (U := ' ' :: c :: t') (by simpa using h) with h | h
    · rcases List.infix_cons_iff.1 h with h | h
      · -- then the chunk starts with `>`, so spaces stood before it on its line
        have hgt : c = '>' := (List.cons_prefix_cons.1 (List.cons_prefix_cons.1 h).2).1.symm
        cases m with
        | zero => exact absurd (hY c (by simp)) (by rw [hgt]; decide)
        | succ m =>
          exact h.isInfix.trans ⟨List.replicate m ' ', Y', by simp [List.replicate_succ']⟩
      · exact h.trans htY
    · exact (ctx.closer h).trans hY'Y
  · intro h
    rcases infix_append_of_head hsolid (U := c :: t') (by simpa using h) with h | h
    · rcases List.infix_cons_iff.1 h with h | h
      · exact absurd (List.cons_prefix_cons.1 h).1.symm hc
      · exact h.trans ((List.prefix_append t' Y').isInfix.trans hdrop)
    · exact (ctx.closer h).trans ((List.suffix_append t' Y').isInfix.trans hdrop)

theorem chunkContext_spaced {r : Bool} {seg : List Chunk} {Y : List Char}
    (h : seg <+: scanChunks r Y) (hY : WhiteStart Y) :
    ChunkContext (seg.flatMap fun d => ' ' :: d.text.toList) Y := by
  induction seg generalizing Y with
  | nil => exact chunkContext_nil Y
  | cons ch seg ih =>
    obtain ⟨L, hL⟩ := h
    obtain ⟨m, Y', rfl, hscan, hY', ht, -⟩ := scanChunks_eq_cons hL.symm
    have ctx := ih ⟨L, hscan.symm⟩ hY'
    simpa only [List.flatMap_cons, List.cons_append] using chunkContext_cons ctx hY ht

/-- Consecutive chunks of a line, joined by single spaces, are chunked into the same chunks. -/
theorem scanChunks_joinChunks {r : Bool} {L : List Char} {seg : List Chunk}
    (h : seg <:+: scanChunks r L) : scanChunks r (joinChunks seg) = seg := by
  induction L using scanChunks.induct r generalizing seg with
  | case1 =>
    rw [scanChunks.eq_1, List.infix_nil] at h
    subst h
    simp [joinChunks, scanChunks]
  | case2 rest ih =>
    rw [scanChunks_space] at h
    exact ih h
  | case3 c rest hc k n hn hnext ih =>
    rw [scanChunks_cons_of_nextChunk hc hnext] at h
    rcases List.infix_cons_iff.1 h with hp | hi
    · cases seg with
      | nil => simp [joinChunks, scanChunks]
      | cons ch seg =>
        -- the segment starts with this chunk: it is read again, then the rest of the segment
        obtain ⟨rfl, hseg⟩ := List.cons_prefix_cons.1 hp
        obtain ⟨hle, hY, -, hword⟩ := nextChunk_bounds hc hnext
        obtain ⟨n, rfl⟩ : ∃ n', n = n' + 1 := ⟨n - 1, by omega⟩
        simp only [List.length_cons] at hle
        have hsplit : rest = rest.take n ++ (c :: rest).drop (n + 1) := by simp
        have ctx := chunkContext_spaced hseg hY
        have hnext' := nextChunk_append (W := rest.take n) (hsplit ▸ hnext)
          (by simp; omega) hY hword ctx
        have hW : (rest.take n).length = n := by simp; omega
        rw [joinChunks, String.toList_ofList, List.take_succ_cons, List.cons_append,
          scanChunks_cons_of_nextChunk hc hnext', List.take_succ_cons, List.drop_succ_cons,
          List.take_left' hW, List.drop_left' hW]
        congr 1
        cases seg with
        | nil => simp [scanChunks]
        | cons d seg =>
          rw [List.flatMap_cons, List.cons_append, scanChunks_space]
          exact ih hseg.isInfix
    · exact ih hi

end HtmlMarkdown
