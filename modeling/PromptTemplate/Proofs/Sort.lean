import Mathlib.Order.Lattice

/-!
# Stable sorting

A list sorted by a key holds the elements of each key in the order they had (`isStableSort_mergeSort`). So of
two elements the one with the lesser key comes first, or with equal keys the one that came first in the list
(`pairwise_mergeSort_lex`).
-/

namespace PromptTemplate

/-- The elements of a list by ascending keys, those with one key in the order they had. -/
structure IsStableSort {α κ : Type} [LinearOrder κ] (key : α → κ) (l sorted : List α) : Prop where
  perm : sorted.Perm l
  ascending : sorted.Pairwise fun a b => key a ≤ key b
  stable : ∀ k, (sorted.filter fun a => key a = k) = l.filter fun a => key a = k

section Key

variable {α κ : Type} [LinearOrder κ] {before : α → α → Bool} {key : α → κ}
variable (hkey : ∀ a b, before a b = true ↔ key a ≤ key b)
include hkey

theorem trans_of_key (a b c : α) (hab : before a b = true) (hbc : before b c = true) : before a c = true :=
  (hkey a c).mpr (le_trans ((hkey a b).mp hab) ((hkey b c).mp hbc))

theorem total_of_key (a b : α) : (before a b || before b a) = true := by
  rw [Bool.or_eq_true, hkey, hkey]
  exact le_total (key a) (key b)

theorem pairwise_mergeSort (l : List α) : (l.mergeSort before).Pairwise fun a b => key a ≤ key b :=
  (List.pairwise_mergeSort (trans_of_key hkey) (total_of_key hkey) l).imp (hkey _ _).mp

/-- The elements of one key keep their order. -/
theorem filter_mergeSort (k : κ) (l : List α) :
    ((l.mergeSort before).filter fun a => key a = k) = l.filter fun a => key a = k := by
  have hequal : (l.filter fun a => key a = k).Pairwise fun a b => before a b = true :=
    List.pairwise_of_forall_mem_list fun a ha b hb => by
      rw [hkey, of_decide_eq_true (List.mem_filter.mp ha).2, of_decide_eq_true (List.mem_filter.mp hb).2]
  have hsub := (List.sublist_mergeSort (trans_of_key hkey) (total_of_key hkey) hequal
    List.filter_sublist).filter fun a => key a = k
  simp only [List.filter_filter, Bool.and_self] at hsub
  exact (hsub.eq_of_length ((List.mergeSort_perm l before).filter _).length_eq.symm).symm

/-- **Sorting is stable.** -/
theorem isStableSort_mergeSort (l : List α) : IsStableSort key l (l.mergeSort before) where
  perm := List.mergeSort_perm l before
  ascending := pairwise_mergeSort hkey l
  stable k := filter_mergeSort hkey k l

theorem pairwise_mergeSort_lex {r : α → α → Prop} {l : List α} (hl : l.Pairwise r) :
    (l.mergeSort before).Pairwise fun a b => key a < key b ∨ key a = key b ∧ r a b := by
  rw [List.pairwise_iff_forall_sublist]
  intro a b hab
  have hle : key a ≤ key b := List.pairwise_iff_forall_sublist.mp (pairwise_mergeSort hkey l) hab
  refine (lt_or_eq_of_le hle).imp_right fun heq => ⟨heq, ?_⟩
  -- both are in the class of their key, which the sort leaves as it was
  have hclass := hab.filter fun c => key c = key b
  rw [filter_mergeSort hkey] at hclass
  simp only [List.filter_cons, heq, decide_true, if_true, List.filter_nil] at hclass
  exact List.pairwise_iff_forall_sublist.mp hl (hclass.trans List.filter_sublist)

end Key

end PromptTemplate
