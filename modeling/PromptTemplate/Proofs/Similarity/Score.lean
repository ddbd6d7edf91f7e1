import Mathlib.Data.Finset.Card
import PromptTemplate.Proofs.Number.Rounding
import PromptTemplate.Proofs.Text.Cut
import PromptTemplate.Proofs.Text.Distinct
import PromptTemplate.Proofs.Text.Utf8
import PromptTemplate.Similarity

/-!
# How alike two texts are

A score is a quotient of numbers of code points, so it is exact: it does not depend on the order of the two
texts, and it is one and zero just where two texts have all or none of their code points in common, equality,
emptiness and containment apart (`score_extremes`). Its terms are small, since a text has no more distinct code
points than there are. So scores as floating-point numbers are in the order of the scores
(`Ratio.IsScore.toBinary64_lt_iff`).
-/

namespace PromptTemplate

open Text

namespace Ratio

/-- The rational number that a quotient is. -/
def value (r : Ratio) : ℚ := r.num / r.den

/-- A quotient up to one, with terms that floating-point numbers tell apart. -/
structure IsScore (r : Ratio) : Prop where
  pos : 0 < r.den
  le : r.num ≤ r.den
  small : r.den ≤ 2 ^ 22

theorem le_iff_value_le {r s : Ratio} (hr : 0 < r.den) (hs : 0 < s.den) :
    r.le s = true ↔ r.value ≤ s.value := by
  have hr' : (0 : ℚ) < r.den := Nat.cast_pos.mpr hr
  have hs' : (0 : ℚ) < s.den := Nat.cast_pos.mpr hs
  rw [value, value, div_le_div_iff₀ hr' hs', le, decide_eq_true_eq]
  exact_mod_cast Iff.rfl

namespace IsScore

variable {r s : Ratio}

theorem nonneg (_ : r.IsScore) : 0 ≤ r.value := div_nonneg (Nat.cast_nonneg _) (Nat.cast_nonneg _)

theorem value_eq_zero_iff (hr : r.IsScore) : r.value = 0 ↔ r.num = 0 := by
  rw [value, div_eq_zero_iff, or_iff_left (Nat.cast_pos.mpr hr.pos).ne', Nat.cast_eq_zero]

theorem value_eq_one_iff (hr : r.IsScore) : r.value = 1 ↔ r.num = r.den := by
  rw [value, div_eq_one_iff_eq (Nat.cast_pos.mpr hr.pos).ne', Nat.cast_inj]

theorem value_le_one (hr : r.IsScore) : r.value ≤ 1 :=
  div_le_one_of_le₀ (Nat.cast_le.mpr hr.le) (Nat.cast_nonneg _)

/-- **Scores stay in order** as floating-point numbers. -/
theorem toBinary64_lt_iff (hr : r.IsScore) (hs : s.IsScore) :
    r.toBinary64.lt s.toBinary64 = true ↔ r.value < s.value :=
  Binary64.ofRatio_lt_ofRatio_iff hr.pos hs.pos hr.le hs.le hr.small hs.small

theorem lt_toBinary64_iff (hr : r.IsScore) {x : Binary64} (hx : x.InRange) :
    x.lt r.toBinary64 = true ↔ x.IsBelow r.value ∧ x.toRat? ≠ r.toBinary64.toRat? :=
  Binary64.lt_ofRatio_iff hr.pos hr.le hx

end IsScore

end Ratio

namespace CodePoint

theorem toNat_injective : Function.Injective CodePoint.toNat := by
  intro c d h
  have hsome : some c = some d := by rw [← ofNat?_toNat c, h, ofNat?_toNat d]
  exact Option.some.inj hsome

end CodePoint

namespace Similarity

/-! ### Counting code points -/

theorem nodup_letters (t : Text) : (letters t).Nodup := nodup_eraseDups t

theorem toFinset_letters (t : Text) : (letters t).toFinset = t.toFinset := by
  ext c
  simp [letters]

theorem length_letters (t : Text) : (letters t).length = t.toFinset.card := by
  rw [← toFinset_letters, List.toFinset_card_of_nodup (nodup_letters t)]

theorem length_shared (a b : Text) :
    ((letters a).filter (letters b).contains).length = (a.toFinset ∩ b.toFinset).card := by
  rw [← List.toFinset_card_of_nodup ((nodup_letters a).filter _)]
  congr 1
  ext c
  simp [letters]

theorem card_toFinset_le (t : Text) : t.toFinset.card ≤ 0x110000 := by
  have hsubset : t.toFinset.image CodePoint.toNat ⊆ Finset.range 0x110000 := by
    intro n hn
    obtain ⟨c, -, rfl⟩ := Finset.mem_image.mp hn
    exact Finset.mem_range.mpr c.toNat_lt
  have hcard := Finset.card_le_card hsubset
  rwa [Finset.card_image_of_injective _ CodePoint.toNat_injective, Finset.card_range] at hcard

theorem card_toFinset_pos {t : Text} (h : t ≠ []) : 0 < t.toFinset.card :=
  Finset.card_pos.mpr (List.toFinset_nonempty_iff t |>.mpr h)

theorem card_inter_le (a b : Text) :
    (a.toFinset ∩ b.toFinset).card ≤ a.toFinset.card ∧ (a.toFinset ∩ b.toFinset).card ≤ b.toFinset.card :=
  ⟨Finset.card_le_card Finset.inter_subset_left, Finset.card_le_card Finset.inter_subset_right⟩

/-! ### The four rules -/

/-- Neither text is a part of the other. -/
def AreApart (a b : Text) : Prop := ¬ a <:+: b ∧ ¬ b <:+: a

theorem AreApart.ne_nil {a b : Text} (h : AreApart a b) : a ≠ [] ∧ b ≠ [] :=
  ⟨fun ha => h.1 (ha ▸ List.nil_infix), fun hb => h.2 (hb ▸ List.nil_infix)⟩

/-- The rule that gives the score of two texts in lower case. -/
inductive Scored (a b : Text) : Ratio → Prop where
  | equal (h : a = b) : Scored a b ⟨1, 1⟩
  | empty (h : Xor (a = []) (b = [])) : Scored a b ⟨0, 1⟩
  | part (h : a ≠ b) (hne : a ≠ [] ∧ b ≠ []) (hpart : a <:+: b ∨ b <:+: a) : Scored a b ⟨4, 5⟩
  | apart (h : AreApart a b) :
    Scored a b ⟨2 * (a.toFinset ∩ b.toFinset).card, a.toFinset.card + b.toFinset.card⟩

theorem scored_scoreLower (a b : Text) : Scored a b (scoreLower a b) := by
  unfold scoreLower
  split
  · rename_i h
    exact .equal h
  · rename_i hne
    split
    · rename_i h
      refine .empty ?_
      rw [Bool.or_eq_true, List.isEmpty_iff, List.isEmpty_iff] at h
      rcases h with h | h
      · exact .inl ⟨h, fun hb => hne (h.trans hb.symm)⟩
      · exact .inr ⟨h, fun ha => hne (ha.trans h.symm)⟩
    · rename_i hnil
      rw [Bool.or_eq_true, List.isEmpty_iff, List.isEmpty_iff, not_or] at hnil
      split
      · rename_i h
        rw [Bool.or_eq_true, has_eq_true_iff, has_eq_true_iff] at h
        exact .part hne hnil h.symm
      · rename_i h
        rw [Bool.or_eq_true, has_eq_true_iff, has_eq_true_iff, not_or] at h
        dsimp only
        rw [length_shared, length_letters, length_letters]
        exact .apart ⟨h.2, h.1⟩

namespace Scored

variable {a b : Text} {r : Ratio}

theorem isScore (h : Scored a b r) : r.IsScore := by
  cases h with
  | equal | empty | part => exact ⟨by decide, by decide, by decide⟩
  | apart h =>
    have hpos := card_toFinset_pos h.ne_nil.1
    have hcommon := card_inter_le a b
    have ha := card_toFinset_le a
    have hb := card_toFinset_le b
    refine ⟨?_, ?_, ?_⟩ <;> dsimp only <;> omega

theorem value_eq_one_iff (h : Scored a b r) :
    r.value = 1 ↔ a = b ∨ AreApart a b ∧ ∀ c, c ∈ a ↔ c ∈ b := by
  rw [h.isScore.value_eq_one_iff]
  cases h with
  | equal h => simp [h]
  | empty h =>
    have hne : a ≠ b := fun hab => by simp [hab] at h
    have hnot : ¬ AreApart a b := fun hapart => by simp [hapart.ne_nil.1, hapart.ne_nil.2] at h
    simp [hne, hnot]
  | part h hne hpart =>
    have hnot : ¬ AreApart a b := fun hapart => not_or.mpr hapart hpart
    simp [h, hnot]
  | apart h =>
    dsimp only
    have hne : a ≠ b := fun hab => h.1 (hab ▸ List.infix_refl a)
    have hcommon := card_inter_le a b
    rw [or_iff_right hne, and_iff_right h]
    constructor
    · intro heq c
      -- the common code points are as many as those of either text
      have hleft : a.toFinset ∩ b.toFinset = a.toFinset :=
        Finset.eq_of_subset_of_card_le Finset.inter_subset_left (by omega)
      have hright : a.toFinset ∩ b.toFinset = b.toFinset :=
        Finset.eq_of_subset_of_card_le Finset.inter_subset_right (by omega)
      rw [← List.mem_toFinset, ← hleft, hright, List.mem_toFinset]
    · intro hmem
      have hset : a.toFinset = b.toFinset := by
        ext c
        simpa using hmem c
      rw [hset, Finset.inter_self, Nat.two_mul]

theorem value_eq_zero_iff (h : Scored a b r) :
    r.value = 0 ↔ Xor (a = []) (b = []) ∨ (a ≠ [] ∧ b ≠ []) ∧ ∀ c ∈ a, c ∉ b := by
  rw [h.isScore.value_eq_zero_iff]
  cases h with
  | equal h =>
    subst h
    cases a <;> simp
  | empty h => simp [h]
  | part h hne hpart =>
    have hcommon : ∃ c ∈ a, c ∈ b := by
      rcases hpart with hpart | hpart
      · obtain ⟨c, hc⟩ := List.exists_mem_of_ne_nil a hne.1
        exact ⟨c, hc, hpart.subset hc⟩
      · obtain ⟨c, hc⟩ := List.exists_mem_of_ne_nil b hne.2
        exact ⟨c, hpart.subset hc, hc⟩
    simpa [hne.1, hne.2] using hcommon
  | apart h =>
    dsimp only
    have hnot : ¬ Xor (a = []) (b = []) := by simp [h.ne_nil.1, h.ne_nil.2]
    rw [Nat.mul_eq_zero, or_iff_right two_ne_zero, Finset.card_eq_zero, ← Finset.disjoint_iff_inter_eq_empty,
      List.disjoint_toFinset_iff_disjoint, or_iff_right hnot, and_iff_right h.ne_nil]
    rfl

end Scored

/-- The rules do not look at the order of the texts. -/
theorem scoreLower_comm (a b : Text) : scoreLower a b = scoreLower b a := by
  unfold scoreLower
  dsimp only
  simp only [length_shared, length_letters, eq_comm (a := a), Bool.or_comm a.isEmpty, Bool.or_comm (a.has b),
    Finset.inter_comm a.toFinset, Nat.add_comm a.toFinset.card]

/-! ### Scores -/

theorem scored_score (a b : Text) : Scored a.lower b.lower (score a b) := scored_scoreLower _ _

theorem isScore_score (a b : Text) : (score a b).IsScore := (scored_score a b).isScore

/-- **The score of two texts** is the same in either order and lies between zero and one; it is one for texts
that are equal without regard to case, or apart and of the same code points, and zero for an empty text and
one that is not, or two that have no code point in common. -/
theorem score_extremes (a b : Text) :
    (score a b).den ≠ 0 ∧ (score a b).value = (score b a).value ∧
    0 ≤ (score a b).value ∧ (score a b).value ≤ 1 ∧
    ((score a b).value = 1 ↔ a.lower = b.lower ∨
      (a.lower ≠ [] ∧ b.lower ≠ []) ∧ (¬ a.lower <:+: b.lower ∧ ¬ b.lower <:+: a.lower) ∧
        ∀ c, c ∈ a.lower ↔ c ∈ b.lower) ∧
    ((score a b).value = 0 ↔ Xor (a.lower = []) (b.lower = []) ∨
      (a.lower ≠ [] ∧ b.lower ≠ []) ∧ ∀ c ∈ a.lower, c ∉ b.lower) := by
  have hscore := isScore_score a b
  refine ⟨hscore.pos.ne', ?_, hscore.nonneg, hscore.value_le_one, ?_, ?_⟩
  · rw [score, score, scoreLower_comm]
  · rw [(scored_score a b).value_eq_one_iff]
    refine or_congr_right ⟨fun h => ⟨h.1.ne_nil, h⟩, fun h => h.2⟩
  · exact (scored_score a b).value_eq_zero_iff

/-- The same letters in another order and in capitals. -/
example : score "abc" "CAB" = ⟨6, 6⟩ := by decide

end Similarity

end PromptTemplate
