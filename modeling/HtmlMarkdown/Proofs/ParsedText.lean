import HtmlMarkdown.Convert.Inline
import HtmlMarkdown.Markup.Html.Parse

namespace HtmlMarkdown

section Replace

variable {p : Char} {ps rep : List Char}

theorem replaceSeq_append_of_not_mem {xs : List Char} (h : p ∉ xs) (rest : List Char) :
    replaceSeq p ps rep (xs ++ rest) = xs ++ replaceSeq p ps rep rest := by
  induction xs with
  | nil => rfl
  | cons x xs ih =>
    have hx : x ≠ p := fun hx => h (hx ▸ List.mem_cons_self)
    rw [List.cons_append, replaceSeq, if_neg (by simp [hx]),
      ih fun hm => h (List.mem_cons_of_mem x hm)]
    rfl

theorem replaceSeq_match (rest : List Char) :
    replaceSeq p ps rep (p :: (ps ++ rest)) = rep ++ replaceSeq p ps rep rest := by
  have hpre : ps.isPrefixOf (ps ++ rest) = true :=
    List.isPrefixOf_iff_prefix.2 (List.prefix_append ps rest)
  rw [replaceSeq, if_pos (by simp [hpre]), List.drop_left]

theorem replaceSeq_mismatch {rest : List Char} (h : ps.isPrefixOf rest = false) :
    replaceSeq p ps rep (p :: rest) = p :: replaceSeq p ps rep rest := by
  rw [replaceSeq, if_neg (by simp [h])]

theorem replaceSeq_nil (cs : List Char) :
    replaceSeq p [] rep cs = cs.flatMap fun x => if x = p then rep else [x] := by
  induction cs with
  | nil => rw [replaceSeq]; rfl
  | cons c cs ih =>
    rw [List.flatMap_cons, ← ih]
    by_cases hc : c = p
    · subst hc
      rw [if_pos rfl, ← replaceSeq_match cs, List.nil_append]
    · rw [if_neg hc, replaceSeq, if_neg (by simp [hc])]
      rfl

theorem replaceText_toList {pat : String} (hp : pat.toList = p :: ps) (r s : String) :
    (replaceText pat r s).toList = replaceSeq p ps r.toList s.toList := by
  unfold replaceText
  rw [hp, String.toList_ofList]

theorem replaceText_single {pat : String} (hp : pat.toList = [p]) (r s : String) :
    (replaceText pat r s).toList = s.toList.flatMap fun x => if x = p then r.toList else [x] := by
  rw [replaceText_toList hp, replaceSeq_nil]

end Replace

/-- How raw text writes a decoded character: an ampersand and the placeholders as references. -/
def rawTextChars (x : Char) : List Char :=
  if x = '&' then "&amp;".toList
  else if x = ltShield then "&lt;".toList
  else if x = gtShield then "&gt;".toList
  else [x]

theorem rawTextChars_other {x : Char} (ha : x ≠ '&') (hl : x ≠ ltShield) (hg : x ≠ gtShield) :
    rawTextChars x = [x] := by
  rw [rawTextChars, if_neg ha, if_neg hl, if_neg hg]

theorem rawTextChars_amp : rawTextChars '&' = ['&', 'a', 'm', 'p', ';'] := by
  rw [rawTextChars, if_pos rfl]
  simp

theorem rawTextChars_ltShield : rawTextChars ltShield = ['&', 'l', 't', ';'] := by
  rw [rawTextChars, if_neg (by decide), if_pos rfl]
  simp

theorem rawTextChars_gtShield : rawTextChars gtShield = ['&', 'g', 't', ';'] := by
  rw [rawTextChars, if_neg (by decide), if_neg (by decide), if_pos rfl]
  simp

theorem rawText_toList (d : String) : (Html.rawText d).toList = d.toList.flatMap rawTextChars := by
  unfold Html.rawText unshieldAsReferences
  rw [replaceText_single (p := gtShield) (by simp), replaceText_single (p := ltShield) (by simp),
    replaceText_single (p := '&') (by simp), List.flatMap_assoc, List.flatMap_assoc,
    show "&amp;".toList = ['&', 'a', 'm', 'p', ';'] by simp,
    show "&lt;".toList = ['&', 'l', 't', ';'] by simp,
    show "&gt;".toList = ['&', 'g', 't', ';'] by simp]
  congr 1
  funext x
  -- the three characters written as references, each replaced once and never again
  by_cases ha : x = '&'
  · subst ha
    rw [rawTextChars_amp]
    decide
  by_cases hl : x = ltShield
  · subst hl
    rw [rawTextChars_ltShield]
    decide
  by_cases hg : x = gtShield
  · subst hg
    rw [rawTextChars_gtShield]
    decide
  simp [rawTextChars, ha, hl, hg]

def escapeAmpersands (cs : List Char) : List Char :=
  cs.flatMap fun x => if x = '&' then "&amp;".toList else [x]

theorem shield_rawText (cs : List Char) :
    replaceSeq '&' ['g', 't', ';'] [gtShield]
        (replaceSeq '&' ['l', 't', ';'] [ltShield] (cs.flatMap rawTextChars)) =
      escapeAmpersands cs := by
  induction cs with
  | nil => rw [List.flatMap_nil, replaceSeq, replaceSeq]; rfl
  | cons x cs ih =>
    rw [escapeAmpersands, List.flatMap_cons, List.flatMap_cons, ← escapeAmpersands, ← ih]
    by_cases ha : x = '&'
    · -- an ampersand: `&amp;` is neither `&lt;` nor `&gt;`
      subst ha
      show replaceSeq _ _ _ (replaceSeq _ _ _ ('&' :: (['a', 'm', 'p', ';'] ++ _))) =
        '&' :: (['a', 'm', 'p', ';'] ++ _)
      rw [replaceSeq_mismatch rfl, replaceSeq_append_of_not_mem (by decide),
        replaceSeq_mismatch rfl, replaceSeq_append_of_not_mem (by decide)]
    by_cases hl : x = ltShield
    · -- the `&lt;` of a placeholder is shielded back, and the placeholder is no ampersand
      subst hl
      show replaceSeq _ _ _ (replaceSeq _ _ _ ('&' :: (['l', 't', ';'] ++ _))) = [ltShield] ++ _
      rw [replaceSeq_match, replaceSeq_append_of_not_mem (by decide)]
    by_cases hg : x = gtShield
    · subst hg
      show replaceSeq _ _ _ (replaceSeq _ _ _ ('&' :: (['g', 't', ';'] ++ _))) = [gtShield] ++ _
      rw [replaceSeq_mismatch rfl, replaceSeq_append_of_not_mem (by decide), replaceSeq_match]
    · have hx : '&' ∉ [x] := fun h => ha (List.mem_singleton.1 h).symm
      rw [rawTextChars_other ha hl hg, if_neg ha, replaceSeq_append_of_not_mem hx,
        replaceSeq_append_of_not_mem hx]

theorem lookupReference_amp : lookupReference "amp;" = some [38] := by decide +kernel

theorem textReference?_amp (rest : List Char) :
    (textReference? ('a' :: 'm' :: 'p' :: ';' :: rest)).map (fun r => (r.1, r.2.1)) =
      some (['&'], rest) := by
  have hdrop : ('a' :: 'm' :: 'p' :: ';' :: rest).dropWhile Char.isAlphanum = ';' :: rest := by
    simp
  generalize hcs : ('a' :: 'm' :: 'p' :: ';' :: rest) = cs at hdrop
  unfold textReference?
  split
  · simp at hcs
  · split
    · next after h =>
      rw [hdrop, List.cons.injEq] at h
      obtain ⟨-, rfl⟩ := h
      subst hcs
      simp [lookupReference_amp]
      decide
    · next hne => exact absurd hdrop (hne rest)

theorem decodeReferences_amp (rest : List Char) :
    decodeReferences ('&' :: 'a' :: 'm' :: 'p' :: ';' :: rest) = '&' :: decodeReferences rest := by
  have h := textReference?_amp rest
  rw [decodeReferences, if_pos rfl]
  split
  · next value after _ heq =>
    simp only [heq, Option.map_some, Option.some.injEq, Prod.mk.injEq] at h
    obtain ⟨rfl, hafter⟩ := h
    rw [hafter]
    rfl
  · next heq =>
    rw [heq] at h
    cases h

theorem decodeReferences_escapeAmpersands (cs : List Char) :
    decodeReferences (escapeAmpersands cs) = cs := by
  induction cs with
  | nil => rw [escapeAmpersands, List.flatMap_nil, decodeReferences]
  | cons x cs ih =>
    rw [escapeAmpersands, List.flatMap_cons, ← escapeAmpersands]
    by_cases ha : x = '&'
    · subst ha
      rw [if_pos rfl]
      exact (decodeReferences_amp _).trans (congrArg _ ih)
    · rw [if_neg ha, List.singleton_append, decodeReferences, if_neg ha, ih]

theorem decodeText_rawText (d : String) : decodeText (Html.rawText d) = unshieldAsReferences d := by
  -- shielding the raw text leaves the ampersands written as references, and decoding reads them
  have hshield : (replaceText "&gt;" gtShield.toString
      (replaceText "&lt;" ltShield.toString (Html.rawText d))).toList =
        escapeAmpersands d.toList := by
    rw [replaceText_toList (show "&gt;".toList = ['&', 'g', 't', ';'] by simp),
      replaceText_toList (show "&lt;".toList = ['&', 'l', 't', ';'] by simp), rawText_toList]
    exact shield_rawText d.toList
  have hdecoded : decodeEntities (replaceText "&gt;" gtShield.toString
      (replaceText "&lt;" ltShield.toString (Html.rawText d))) = d := by
    rw [decodeEntities, hshield, decodeReferences_escapeAmpersands, String.ofList_toList]
  rw [decodeText, hdecoded]
  rfl

/-- Text from the markup parser reaches the escaper intact. -/
theorem parsedText_reaches_escaper (d : String) :
    decodeText (Html.rawText d) = unshieldAsReferences d ∧
      ∀ (o : Options) (path : List Step), (Node.text (Html.rawText d)).isBlankText = false →
        textMarkdown o ⟨.text (Html.rawText d), path⟩ =
          escape o.escapeRules (unshieldAsReferences d) := by
  refine ⟨decodeText_rawText d, fun o path hblank => ?_⟩
  simp only [textMarkdown, hblank, Bool.false_eq_true, if_false]
  exact congrArg (escape o.escapeRules) (decodeText_rawText d)

theorem parsedText_reaches_escaper_ampersand :
    (Node.text (Html.rawText "a&b")).isBlankText = false ∧
      textMarkdown {} ⟨.text (Html.rawText "a&b"), []⟩ =
        escape ({} : Options).escapeRules (unshieldAsReferences "a&b") :=
  have hblank : (Node.text (Html.rawText "a&b")).isBlankText = false := by decide +kernel
  ⟨hblank, (parsedText_reaches_escaper "a&b").2 {} [] hblank⟩

end HtmlMarkdown
