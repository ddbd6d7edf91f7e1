import Mathlib.Algebra.Ring.Nat
import Mathlib.Data.List.SplitBy
import PromptTemplate.Proofs.Text.Cut

/-!
# Counting pairs

A pair is a code point twice. Pairs are counted from the left and without overlap, so a run of a code point
holds half as many of its pairs as it is long, and what stands between runs holds none: the count of a text is
a sum over its runs (`count_pair_eq_sum_runs`).
-/

namespace PromptTemplate.Text

variable {b : CodePoint} {p : Text}

theorem count_cons_of_not {c : CodePoint} {t : Text} (h : ¬ p <+: c :: t) :
    count (c :: t) p = t.count p := by
  rw [count, cut_cons_of_none (exactly_eq_none h), Cut.hits_cons]
  rfl

theorem count_append_self (hp : p ≠ []) (t : Text) : count (p ++ t) p = t.count p + 1 := by
  have h : exactly p (p ++ t) = some p := exactly_eq_some_iff.mpr ⟨rfl, List.prefix_append p t⟩
  have hcut : cut (exactly p) id (p ++ t) = (cut (exactly p) id t).consHit p := cut_append_of_some hp h
  rw [count, hcut, Cut.hits_consHit, List.length_cons]
  rfl

/-- A pair behind a text is one more, also when the text ends in half of a pair. -/
theorem count_append_pair (b : CodePoint) (t : Text) :
    count (t ++ [b, b]) [b, b] = t.count [b, b] + 1 := by
  induction t using cut_induction (anchored_exactly (List.cons_ne_nil b [b])) with
  | nil => exact count_append_self (by simp) []
  | hit a t _ ha ih =>
    obtain ⟨rfl, -⟩ := exactly_eq_some_iff.mp ha
    change count ([b, b] ++ t ++ [b, b]) [b, b] = count ([b, b] ++ t) [b, b] + 1
    rw [List.append_assoc, count_append_self (by simp), count_append_self (by simp), ih]
  | literal c t hc ih =>
    have hnot : ¬ [b, b] <+: c :: t := fun h => by
      rw [exactly_eq_some_iff.mpr ⟨rfl, h⟩] at hc
      cases hc
    by_cases hct : c = b ∧ t = []
    · obtain ⟨rfl, rfl⟩ := hct
      exact (count_append_self (p := [c, c]) (by simp) [c]).trans (by rw [count_cons_of_not (by simp)])
    · have hnot' : ¬ [b, b] <+: c :: (t ++ [b, b]) := by
        cases t with
        | nil =>
          intro h
          exact hct ⟨(List.cons_prefix_cons.mp h).1.symm, rfl⟩
        | cons d t => simpa using hnot
      rw [List.cons_append, count_cons_of_not hnot', count_cons_of_not hnot, ih]

/-- A block that begins with another code point, and does not hold the one counted, is left out of the
count. -/
theorem count_append_barrier {x : CodePoint} {m : Text} (hb : b ∉ x :: m) (u v : Text) :
    count (u ++ (x :: m ++ v)) [b, b] = u.count [b, b] + v.count [b, b] := by
  have hx : x ∉ [b, b] := fun h => hb (by simp_all)
  have hmatch : ∀ t a, exactly [b, b] t = some a ↔ a = [b, b] ∧ id a <+: t := fun t a => by
    rw [exactly_eq_some_iff, eq_comm (a := [b, b])]
    exact and_congr_right fun ha => by rw [ha, id]
  have hhead : ∀ a : Text, a = [b, b] → (id a).head? = some b := fun a ha => by
    rw [ha]
    rfl
  rw [count, hits_cut_across_barrier hmatch hhead (fun a ha => ha ▸ hx) hb, List.length_append]
  rfl

/-! ### Runs -/

/-- The lengths of the runs of a code point: the stretches of it that are as long as they can be. -/
def runs (b : CodePoint) (t : Text) : List Nat :=
  ((t.splitBy (· == ·)).filter fun r => r.head? = some b).map List.length

/-- A run in front of a text that does not go on with it. -/
theorem count_replicate_append (n : Nat) {t : Text} (ht : t.head? ≠ some b) :
    count (List.replicate n b ++ t) [b, b] = n / 2 + t.count [b, b] := by
  induction n using Nat.twoStepInduction with
  | zero => simp
  | one =>
    have hnot : ¬ [b, b] <+: b :: t := by
      intro h
      obtain ⟨u, hu⟩ := (List.cons_prefix_cons.mp h).2
      exact ht (by rw [← hu]; rfl)
    rw [List.replicate_one, List.singleton_append, count_cons_of_not hnot]
    simp
  | more n ih _ =>
    have hpair : List.replicate (n + 2) b ++ t = [b, b] ++ (List.replicate n b ++ t) := rfl
    rw [hpair, count_append_self (by simp), ih]
    omega

/-- Runs of other code points hold no pair. -/
theorem count_replicate_append_of_ne {c : CodePoint} (hc : c ≠ b) (n : Nat) (t : Text) :
    count (List.replicate (n + 1) c ++ t) [b, b] = t.count [b, b] := by
  have hnotMem : b ∉ c :: List.replicate n c := by simp [hc.symm]
  exact (count_append_barrier hnotMem [] t).trans (Nat.zero_add _)

/-- The pairs in a text that is given by its runs. -/
theorem count_flatten {rs : List Text} (hrun : ∀ r ∈ rs, ∃ n c, r = List.replicate (n + 1) c)
    (hends : rs.IsChain fun r r' => r.head? ≠ r'.head?) :
    count rs.flatten [b, b] =
      (((rs.filter fun r => r.head? = some b).map List.length).map (· / 2)).sum := by
  induction rs with
  | nil => rfl
  | cons r rs ih =>
    obtain ⟨⟨n, c, rfl⟩, hrest⟩ := List.forall_mem_cons.mp hrun
    have ih := ih hrest hends.tail
    rw [List.flatten_cons]
    by_cases hc : c = b
    · subst hc
      have hnext : rs.flatten.head? ≠ some c := by
        cases rs with
        | nil => simp
        | cons r' rs =>
          obtain ⟨m, d, rfl⟩ := hrest r' (List.mem_cons_self ..)
          exact fun h => (List.isChain_cons_cons.mp hends).1 h.symm
      rw [count_replicate_append _ hnext, ih, List.filter_cons_of_pos (by simp [List.replicate_succ])]
      simp
    · rw [count_replicate_append_of_ne hc, ih, List.filter_cons_of_neg (by simp [List.replicate_succ, hc])]

/-- What is split off a text is a run of one code point. -/
theorem exists_replicate_of_mem_splitBy {r t : Text} (h : r ∈ t.splitBy (· == ·)) :
    ∃ n c, r = List.replicate (n + 1) c := by
  obtain ⟨c, q, rfl⟩ := List.exists_cons_of_ne_nil (List.ne_nil_of_mem_splitBy h)
  have hequal : (c :: q).IsChain Eq := (List.isChain_of_mem_splitBy h).imp fun _ _ hxy => beq_iff_eq.mp hxy
  refine ⟨q.length, c, List.eq_replicate_iff.mpr ⟨rfl, fun x hx => ?_⟩⟩
  rcases List.mem_cons.mp hx with rfl | hx
  · rfl
  · exact ((List.pairwise_cons.mp hequal.pairwise).1 x hx).symm

/-- **The pairs of a code point** are counted run by run. -/
theorem count_pair_eq_sum_runs (b : CodePoint) (t : Text) :
    t.count [b, b] = ((runs b t).map (· / 2)).sum := by
  have hends : (t.splitBy (· == ·)).IsChain fun r r' => r.head? ≠ r'.head? := by
    refine (List.isChain_getLast_head_splitBy (· == ·) t).imp_of_mem_imp fun r r' hr _ h => ?_
    obtain ⟨n, c, rfl⟩ := exists_replicate_of_mem_splitBy hr
    obtain ⟨hne, hne', hlast⟩ := h
    rw [List.getLast_replicate, beq_eq_false_iff_ne] at hlast
    rw [List.head?_eq_some_head hne']
    simpa [List.replicate_succ] using hlast
  rw [runs, ← count_flatten (fun _ => exists_replicate_of_mem_splitBy) hends, List.flatten_splitBy]

/-- Five braces in a row are two pairs, and a run of three and a run of one hold one. -/
example : (runs (.char '{') "{{{{{a{{{b}}}}}}}}{}").map (· / 2) = [2, 1, 0] := by decide

end PromptTemplate.Text
