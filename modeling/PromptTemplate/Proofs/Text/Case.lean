import Mathlib.Data.List.TakeWhile
import PromptTemplate.Text.Case

/-!
# The lower-case form of a part of a text

Lower-casing replaces each code point for itself, a capital sigma apart: the text on both sides decides its
form. So a part of a text is lower-cased in the text as it is alone when each of its capital sigmas has
enough of the part on either side (`infix_lower_of_isSettled`), and any other text is a part of a longer one
whose lower-case form does not hold its own (`exists_infix_not_lower`). No proof here looks into the tables,
the letter `a` apart.
-/

namespace PromptTemplate.Text

abbrev capitalSigma : CodePoint := .char '\u03A3'

abbrev smallSigma : CodePoint := .char '\u03C3'

abbrev finalSigma : CodePoint := .char '\u03C2'

variable {q u v before after : Text} {c x : CodePoint}

/-! ### A text between two others -/

/-- The lower-case form of a text between `before`, which is given reversed, and `after`. -/
def lowerBetween (before : Text) : Text → Text → Text
  | [], _ => []
  | c :: t, after => lowerAt before c (t ++ after) ++ lowerBetween (c :: before) t after

theorem lowerBetween_nil (before t : Text) : lowerBetween before t [] = lowerAfter before t := by
  induction t generalizing before with
  | nil => rfl
  | cons c t ih => rw [lowerBetween, lowerAfter, List.append_nil, ih]

theorem lowerBetween_append (before u v after : Text) :
    lowerBetween before (u ++ v) after =
      lowerBetween before u (v ++ after) ++ lowerBetween (u.reverse ++ before) v after := by
  induction u generalizing before with
  | nil => rfl
  | cons c u ih =>
    rw [List.cons_append, lowerBetween, lowerBetween, ih, List.reverse_cons, List.append_assoc,
      List.append_assoc, List.append_assoc]
    rfl

/-- A text in three parts. -/
theorem lower_append (p q s : Text) :
    (p ++ (q ++ s)).lower =
      lowerBetween [] p (q ++ s) ++ (lowerBetween p.reverse q s ++ lowerAfter (q.reverse ++ p.reverse) s) := by
  rw [lower, ← lowerBetween_nil, lowerBetween_append, lowerBetween_append, lowerBetween_nil]
  simp only [List.append_nil]

/-! ### What decides the form of a capital sigma -/

/-- Marks and modifiers alone, which do not count for case. -/
abbrev IsIgnorable (u : Text) : Prop := ∀ c ∈ u, c.isCaseIgnorable = true

theorem startsCased_append_of_isIgnorable (hu : IsIgnorable u) (t : Text) :
    startsCased (u ++ t) = startsCased t := by
  rw [startsCased, List.dropWhile_append, List.dropWhile_eq_nil_iff.mpr hu]
  rfl

theorem startsCased_append_of_not (hu : ¬ IsIgnorable u) (t : Text) : startsCased (u ++ t) = startsCased u := by
  obtain ⟨c, w, hw⟩ := List.exists_cons_of_ne_nil (mt List.dropWhile_eq_nil_iff.mp hu)
  rw [startsCased, startsCased, List.dropWhile_append, hw]
  rfl

theorem startsCased_of_isIgnorable (hu : IsIgnorable u) : startsCased u = false := by
  rw [← List.append_nil u, startsCased_append_of_isIgnorable hu]
  rfl

theorem startsCased_append_of_startsCased (hu : startsCased u = true) (t : Text) :
    startsCased (u ++ t) = true := by
  rw [startsCased_append_of_not (fun h => by simp [startsCased_of_isIgnorable h] at hu), hu]

theorem lowerAt_capitalSigma (before after : Text) :
    lowerAt before capitalSigma after =
      [if startsCased before && !startsCased after then finalSigma else smallSigma] := by
  rw [lowerAt, if_neg (by decide), if_pos rfl]
  split <;> rfl

theorem lowerAt_of_ne (hc : c ≠ capitalSigma) (before after before' after' : Text) :
    lowerAt before c after = lowerAt before' c after' := by
  rw [lowerAt, lowerAt, if_neg hc, if_neg hc]

/-- Text around decides the form of a capital sigma between `u` and `v`: nothing that counts stands before it
and no word goes on behind it, or it ends a word and nothing that counts stands behind it. -/
def IsLoose (u v : Text) : Prop :=
  (IsIgnorable u ∧ startsCased v = false) ∨ (IsIgnorable v ∧ startsCased u.reverse = true)

/-- Each capital sigma of the text has the same form in any longer text. -/
def IsSettled (q : Text) : Prop := ∀ u v, q = u ++ capitalSigma :: v → ¬ IsLoose u v

theorem isSettled_of_notMem (hq : capitalSigma ∉ q) : IsSettled q := fun _ _ h => absurd (by simp [h]) hq

theorem lowerAt_of_not_isLoose (h : ¬ IsLoose u v) (before after : Text) :
    lowerAt (u.reverse ++ before) capitalSigma (v ++ after) = lowerAt u.reverse capitalSigma v := by
  simp only [IsLoose, not_or, not_and, Bool.not_eq_false, Bool.not_eq_true] at h
  obtain ⟨hleft, hright⟩ := h
  have hreverse : IsIgnorable u.reverse ↔ IsIgnorable u := by simp [IsIgnorable]
  rw [lowerAt_capitalSigma, lowerAt_capitalSigma]
  by_cases hu : IsIgnorable u
  · -- A word goes on behind the sigma, which is not final.
    rw [startsCased_append_of_startsCased (hleft hu), hleft hu, Bool.not_true, Bool.and_false, Bool.and_false]
  · rw [startsCased_append_of_not (mt hreverse.mp hu)]
    by_cases hv : IsIgnorable v
    · -- No cased letter stands before the sigma.
      rw [hright hv, Bool.false_and, Bool.false_and]
    · rw [startsCased_append_of_not hv]

/-! ### Settled texts -/

theorem lowerBetween_of_isSettled (hq : IsSettled q) (before after : Text) :
    lowerBetween before q after = q.lower := by
  suffices h : ∀ t u, q = u ++ t → lowerBetween (u.reverse ++ before) t after = lowerAfter u.reverse t from
    h q [] rfl
  -- `u` is the part of `q` that has been lower-cased, and `t` what is left of it
  intro t
  induction t with
  | nil => exact fun _ _ => rfl
  | cons c t ih =>
    intro u hu
    have htail := ih (u ++ [c]) (by simp [hu])
    rw [List.reverse_append] at htail
    have hhead : lowerAt (u.reverse ++ before) c (t ++ after) = lowerAt u.reverse c t := by
      by_cases hc : c = capitalSigma
      · subst hc
        exact lowerAt_of_not_isLoose (hq u t hu) before after
      · exact lowerAt_of_ne hc ..
    rw [lowerBetween, lowerAfter, hhead]
    exact congrArg _ htail

/-- **A settled text keeps its lower-case form** in every text it is a part of. -/
theorem infix_lower_of_isSettled (hq : IsSettled q) {t : Text} (h : q <:+: t) : q.lower <:+: t.lower := by
  obtain ⟨p, s, rfl⟩ := h
  rw [List.append_assoc, lower_append, lowerBetween_of_isSettled hq]
  exact ⟨_, _, List.append_assoc ..⟩

/-! ### Texts that are not settled -/

section Count

variable (hle : ∀ u v : Text, (lowerAt (u.reverse ++ before) capitalSigma (v ++ after)).count x ≤
  (lowerAt u.reverse capitalSigma v).count x)

include hle

/-- What holds of every capital sigma holds of a text. -/
theorem count_lowerBetween_le (u t v : Text) :
    (lowerBetween (u.reverse ++ before) t (v ++ after)).count x ≤ (lowerBetween u.reverse t v).count x := by
  induction t generalizing u with
  | nil => exact Nat.le_refl _
  | cons c t ih =>
    have htail := ih (u ++ [c])
    rw [List.reverse_append] at htail
    have hhead : (lowerAt (u.reverse ++ before) c (t ++ v ++ after)).count x ≤
        (lowerAt u.reverse c (t ++ v)).count x := by
      by_cases hc : c = capitalSigma
      · subst hc
        exact hle u (t ++ v)
      · exact Nat.le_of_eq (congrArg _ (lowerAt_of_ne hc ..))
    rw [lowerBetween, lowerBetween, List.count_append, List.count_append, ← List.append_assoc]
    exact Nat.add_le_add hhead htail

theorem count_lowerBetween_lt
    (hlt : (lowerAt (u.reverse ++ before) capitalSigma (v ++ after)).count x <
      (lowerAt u.reverse capitalSigma v).count x) :
    (lowerBetween before (u ++ capitalSigma :: v) after).count x <
      (u ++ capitalSigma :: v).lower.count x := by
  have hu := count_lowerBetween_le hle [] u (capitalSigma :: v)
  have hv := count_lowerBetween_le hle (u ++ [capitalSigma]) v []
  rw [List.reverse_append] at hv
  rw [lower, ← lowerBetween_nil, lowerBetween_append, lowerBetween_append, lowerBetween, lowerBetween]
  simp only [List.append_nil, List.count_append]
  exact Nat.add_lt_add_of_le_of_lt hu (Nat.add_lt_add_of_lt_of_le hlt hv)

end Count

theorem count_lowerAt (x : CodePoint) (before after : Text) :
    (lowerAt before capitalSigma after).count x =
      if startsCased before && !startsCased after then [finalSigma].count x else [smallSigma].count x := by
  rw [lowerAt_capitalSigma]
  split <;> rfl

abbrev letter : CodePoint := .char 'a'

theorem startsCased_letter : startsCased [letter] = true := by decide +kernel

theorem lowerAt_letter (before after : Text) : lowerAt before letter after = [letter] := rfl

/-- With a letter before it a text has no more small sigmas than alone, and fewer where a sigma that began a
word ends one. -/
theorem count_lowerBetween_letter (hu : IsIgnorable u) (hv : startsCased v = false) :
    (lowerBetween [letter] (u ++ capitalSigma :: v) []).count smallSigma <
      (u ++ capitalSigma :: v).lower.count smallSigma := by
  refine count_lowerBetween_lt (fun u v => ?_) ?_
  · rw [count_lowerAt, count_lowerAt, List.append_nil]
    cases h : startsCased u.reverse with
    | false =>
      rw [Bool.false_and]
      split <;> decide
    | true => rw [startsCased_append_of_startsCased h]
  · have hu : IsIgnorable u.reverse := fun c hc => hu c (List.mem_reverse.mp hc)
    rw [count_lowerAt, count_lowerAt, List.append_nil, hv,
      startsCased_append_of_isIgnorable hu, startsCased_letter, startsCased_of_isIgnorable hu]
    decide

/-- With a letter behind it a text has no more final sigmas than alone, and fewer where a sigma that ended a
word stands within one. -/
theorem count_lowerBetween_before_letter (hv : IsIgnorable v) (hu : startsCased u.reverse = true) :
    (lowerBetween [] (u ++ capitalSigma :: v) [letter]).count finalSigma <
      (u ++ capitalSigma :: v).lower.count finalSigma := by
  refine count_lowerBetween_lt (fun u v => ?_) ?_
  · rw [count_lowerAt, count_lowerAt, List.append_nil]
    cases h : startsCased v with
    | false =>
      cases startsCased u.reverse with
      | false => exact Nat.le_refl _
      | true =>
        rw [Bool.true_and]
        split <;> decide
    | true => rw [startsCased_append_of_startsCased h]
  · rw [count_lowerAt, count_lowerAt, List.append_nil, hu,
      startsCased_append_of_isIgnorable hv, startsCased_letter, startsCased_of_isIgnorable hv]
    decide

theorem not_infix_lower {p q s : Text} (hcount : (lowerBetween p.reverse q s).count x < q.lower.count x)
    (hp : x ∉ lowerBetween [] p (q ++ s)) (hs : x ∉ lowerAfter (q.reverse ++ p.reverse) s) :
    ¬ q.lower <:+: (p ++ (q ++ s)).lower := by
  intro h
  have hle := h.sublist.count_le x
  rw [lower_append, List.count_append, List.count_append, List.count_eq_zero.mpr hp,
    List.count_eq_zero.mpr hs] at hle
  omega

/-- **A text that is not settled loses its lower-case form** with a letter before it or behind it. -/
theorem exists_infix_not_lower (hq : ¬ IsSettled q) :
    (∃ t : Text, q <:+: t ∧ ¬ q.lower <:+: t.lower) ∧ (smallSigma ∈ q.lower ∨ finalSigma ∈ q.lower) := by
  obtain ⟨u, v, rfl, hloose⟩ : ∃ u v, q = u ++ capitalSigma :: v ∧ IsLoose u v := by
    simpa [IsSettled] using hq
  rcases hloose with ⟨hu, hv⟩ | ⟨hv, hu⟩
  · -- The small sigmas of the lower-case form are too many for a text that begins with a letter.
    have hcount := count_lowerBetween_letter hu hv
    have hlost := not_infix_lower (p := [letter]) (s := []) hcount
      (by simp [lowerBetween, lowerAt_letter]) (by simp [lowerAfter])
    exact ⟨⟨_, ⟨_, _, List.append_assoc ..⟩, hlost⟩, .inl (List.count_pos_iff.mp (Nat.zero_lt_of_lt hcount))⟩
  · -- Its final sigmas are too many for a text that ends in a letter.
    have hcount := count_lowerBetween_before_letter hv hu
    have hlost := not_infix_lower (p := []) (s := [letter]) hcount
      (by simp [lowerBetween]) (by simp [lowerAfter, lowerAt_letter])
    exact ⟨⟨_, ⟨_, _, List.append_assoc ..⟩, hlost⟩, .inr (List.count_pos_iff.mp (Nat.zero_lt_of_lt hcount))⟩

/-! ### Text of ASCII -/

theorem lowerAt_of_ascii (hc : c.toNat < 0x80) (before after : Text) :
    lowerAt before c after = [c.toLowerAscii] := by
  have hdotted : c ≠ .char '\u0130' := fun h => absurd (h ▸ hc) (by decide)
  have hsigma : c ≠ capitalSigma := fun h => absurd (h ▸ hc) (by decide)
  rw [lowerAt, if_neg hdotted, if_neg hsigma]
  cases c with
  | surrogate n => rfl
  | char x => rw [CodePoint.toLower, if_pos (show x.toNat < 0x80 from hc), CodePoint.toLowerAscii]

theorem lowerAfter_of_ascii {t : Text} (ht : ∀ c ∈ t, c.toNat < 0x80) (before : Text) :
    lowerAfter before t = t.toLowerAscii := by
  induction t generalizing before with
  | nil => rfl
  | cons c t ih =>
    rw [List.forall_mem_cons] at ht
    rw [lowerAfter, lowerAt_of_ascii ht.1, ih ht.2]
    rfl

/-- Text of ASCII alone has one lower-case form. -/
theorem lower_of_ascii {t : Text} (ht : ∀ c ∈ t, c.toNat < 0x80) : t.lower = t.toLowerAscii :=
  lowerAfter_of_ascii ht []

end PromptTemplate.Text
