import Mathlib.Data.List.Induction
import Mathlib.Data.List.Infix
import Mathlib.Data.List.Nodup
import PromptTemplate.Proofs.Text.Cut

/-!
# Each text once

A list that grows by one member at a time and takes none twice holds the members in the order of their first
places (`eraseDups_append_singleton`, `firstSeen_eraseDups`).

A scan goes on behind a match it has found. Where no match begins inside another (`Isolated`), it misses
none: it finds what the pattern finds at the places of the text one after the other
(`hits_cut_eq_filterMap_tails`). With repetitions left out, these are the texts of a shape that stand anywhere
in the text, in the order of their first places (`listed_eraseDups_hits`).
-/

namespace PromptTemplate.Text

/-! ### Lists without repetitions -/

section Lists

variable {α : Type}

theorem filter_ne_eq_self [DecidableEq α] {l : List α} {x : α} (h : x ∉ l) : l.filter (· ≠ x) = l :=
  List.filter_eq_self.mpr fun _ hy => decide_eq_true (ne_of_mem_of_not_mem hy h)

variable [BEq α] [LawfulBEq α]

/-- Two lists with nothing in common lose their repetitions apart. -/
theorem eraseDups_append_of_disjoint {l l' : List α} (h : ∀ x ∈ l', x ∉ l) :
    (l ++ l').eraseDups = l.eraseDups ++ l'.eraseDups := by
  have hkeep : l'.removeAll l = l' := List.filter_eq_self.mpr fun x hx => by simpa using h x hx
  rw [List.eraseDups_append, hkeep]

variable [DecidableEq α]

theorem eraseDups_filter (p : α → Bool) (l : List α) :
    (l.filter p).eraseDups = l.eraseDups.filter p := by
  induction h : l.length using Nat.strong_induction_on generalizing l with
  | _ n ih =>
    cases l with
    | nil => rfl
    | cons x l =>
      -- the induction is on what is left of `l` without `x`
      have hshorter : (l.filter fun y => !y == x).length < n := by
        rw [← h, List.length_cons]
        exact Nat.lt_succ_of_le (List.length_filter_le _ l)
      rw [List.eraseDups_cons]
      by_cases hp : p x = true
      · rw [List.filter_cons_of_pos hp, List.eraseDups_cons, List.filter_cons_of_pos hp,
          ← ih _ hshorter _ rfl, List.filter_filter, List.filter_filter]
        simp only [Bool.and_comm]
      · rw [List.filter_cons_of_neg hp, List.filter_cons_of_neg hp, ← ih _ hshorter _ rfl,
          List.filter_filter]
        congr 1
        refine List.filter_congr fun y _ => ?_
        by_cases hy : y = x <;> simp_all

theorem eraseDups_cons_eq (x : α) (l : List α) :
    (x :: l).eraseDups = x :: l.eraseDups.filter (· ≠ x) := by
  rw [List.eraseDups_cons, eraseDups_filter]
  congr 2
  funext y
  by_cases hy : y = x <;> simp [hy]

theorem eraseDups_eq_self {l : List α} (h : l.Nodup) : l.eraseDups = l := by
  induction l with
  | nil => rfl
  | cons x l ih =>
    obtain ⟨hx, hl⟩ := List.nodup_cons.mp h
    rw [eraseDups_cons_eq, ih hl, filter_ne_eq_self hx]

theorem nodup_eraseDups (l : List α) : l.eraseDups.Nodup := by
  induction l with
  | nil => exact List.nodup_nil
  | cons x l ih =>
    rw [eraseDups_cons_eq, List.nodup_cons]
    exact ⟨by simp, ih.filter _⟩

/-- What is kept of each repetition is the first, so first places stay in order. -/
theorem pairwise_idxOf_eraseDups (l : List α) : l.eraseDups.Pairwise fun x y => l.idxOf x < l.idxOf y := by
  induction l with
  | nil => exact List.Pairwise.nil
  | cons x l ih =>
    rw [eraseDups_cons_eq, List.pairwise_cons]
    have hne : ∀ y ∈ l.eraseDups.filter (· ≠ x), (x :: l).idxOf y = l.idxOf y + 1 := fun y hy =>
      List.idxOf_cons_ne l (Ne.symm (of_decide_eq_true (List.mem_filter.mp hy).2))
    constructor
    · intro y hy
      rw [hne y hy, List.idxOf_cons_self]
      exact Nat.succ_pos _
    · refine (ih.filter _).imp_of_mem fun {y z} hy hz h => ?_
      rw [hne y hy, hne z hz]
      exact Nat.succ_lt_succ h

/-- The members of a list, each once and in the order of their first places. -/
structure FirstSeen (seen xs : List α) : Prop where
  mem_iff : ∀ x, x ∈ xs ↔ x ∈ seen
  nodup : xs.Nodup
  ordered : xs.Pairwise fun x y => seen.idxOf x < seen.idxOf y

theorem firstSeen_eraseDups (l : List α) : FirstSeen l l.eraseDups :=
  ⟨fun _ => List.mem_eraseDups, nodup_eraseDups l, pairwise_idxOf_eraseDups l⟩

omit [DecidableEq α] in
/-- **One member more** goes to the end, unless it is there. -/
theorem eraseDups_append_singleton (l : List α) (x : α) :
    (l ++ [x]).eraseDups = if x ∈ l then l.eraseDups else l.eraseDups ++ [x] := by
  by_cases hx : x ∈ l
  · have hnone : [x].removeAll l = [] := by simpa [List.removeAll] using hx
    rw [if_pos hx, List.eraseDups_append, hnone, List.eraseDups_nil, List.append_nil]
  · rw [if_neg hx, eraseDups_append_of_disjoint (by simpa using hx)]
    rfl

end Lists

/-! ### Matches at all places -/

section Tails

variable {α : Type} {match? : Text → Option α} {raw : α → Text}

/-- No match begins inside another. -/
def Isolated (match? : Text → Option α) (raw : α → Text) : Prop :=
  ∀ a v, match? (raw a ++ v) = some a → ∀ w, w <:+ raw a → w ≠ [] → w ≠ raw a → match? (w ++ v) = none

theorem Anchored.match?_nil (hm : Anchored match? raw) : match? [] = none := by
  rw [Option.eq_none_iff_forall_ne_some]
  intro a ha
  obtain ⟨hne, hpre⟩ := hm [] a ha
  exact hne (List.prefix_nil.mp hpre)

theorem filterMap_tails_append_of_none {m v : Text} (h : ∀ w, w <:+ m → w ≠ [] → match? (w ++ v) = none) :
    (m ++ v).tails.filterMap match? = v.tails.filterMap match? := by
  induction m with
  | nil => rfl
  | cons c m ih =>
    have hc : match? (c :: (m ++ v)) = none := h _ (List.suffix_refl _) (by simp)
    rw [List.cons_append, List.tails_cons, List.filterMap_cons_none hc]
    exact ih fun w hw => h w (hw.trans (List.suffix_cons c m))

/-- **A scan misses no match** where matches do not overlap. -/
theorem hits_cut_eq_filterMap_tails (hm : Anchored match? raw) (hi : Isolated match? raw) (t : Text) :
    (cut match? raw t).hits = t.tails.filterMap match? := by
  induction t using cut_induction hm with
  | nil =>
    change [] = [[]].filterMap match?
    rw [List.filterMap_cons_none hm.match?_nil, List.filterMap_nil]
  | literal c t hc ih =>
    rw [cut_cons_of_none hc, Cut.hits_cons, ih, List.tails_cons, List.filterMap_cons_none hc]
  | hit a t hne ha ih =>
    obtain ⟨c, r, hr⟩ := List.exists_cons_of_ne_nil hne
    -- behind its first code point nothing begins in the match
    have hrest : (r ++ t).tails.filterMap match? = t.tails.filterMap match? := by
      apply filterMap_tails_append_of_none
      intro w hw hwne
      refine hi a t ha w (hr ▸ hw.trans (List.suffix_cons c r)) hwne fun h => ?_
      have hlen := hw.length_le
      rw [h, hr, List.length_cons] at hlen
      omega
    rw [cut_append_of_some hne ha, Cut.hits_consHit, ih, ← hrest]
    rw [hr, List.cons_append] at ha ⊢
    rw [List.tails_cons, List.filterMap_cons_some ha]

end Tails

/-! ### The distinct texts of a shape -/

/-- The texts of a shape that stand anywhere in `t`, each once and in the order of their first places. -/
structure Listed (Shape : Text → Prop) (t : Text) (xs : List Text) : Prop where
  mem_iff : ∀ x, x ∈ xs ↔ Shape x ∧ x <:+: t
  nodup : xs.Nodup
  /-- Each of them has a place before all places of the next. -/
  ordered : xs.Pairwise fun x y => ∃ i, x <+: t.drop i ∧ ∀ j ≤ i, ¬ y <+: t.drop j

/-- What is found at the places of a text, each once, comes in the order of the first places. -/
theorem pairwise_eraseDups_filterMap_tails (f : Text → Option Text) (t : Text) :
    (t.tails.filterMap f).eraseDups.Pairwise fun x y =>
      ∃ i, f (t.drop i) = some x ∧ ∀ j ≤ i, f (t.drop j) ≠ some y := by
  induction t with
  | nil =>
    change ([[]].filterMap f).eraseDups.Pairwise _
    cases h : f [] with
    | none =>
      rw [List.filterMap_cons_none h]
      exact .nil
    | some x =>
      rw [List.filterMap_cons_some h, List.filterMap_nil, eraseDups_eq_self (List.nodup_singleton x)]
      exact List.pairwise_singleton _ x
  | cons c t ih =>
    -- a place of `t` is one place further on, and the new place must not hold `y`
    have hshift : ∀ x y, f (c :: t) ≠ some y →
        (∃ i, f (t.drop i) = some x ∧ ∀ j ≤ i, f (t.drop j) ≠ some y) →
        ∃ i, f ((c :: t).drop i) = some x ∧ ∀ j ≤ i, f ((c :: t).drop j) ≠ some y := by
      rintro x y hy ⟨i, hx, hbefore⟩
      refine ⟨i + 1, hx, fun j hj => ?_⟩
      cases j with
      | zero => exact hy
      | succ j => exact hbefore j (by omega)
    rw [List.tails_cons]
    cases ha : f (c :: t) with
    | none =>
      rw [List.filterMap_cons_none ha]
      exact ih.imp fun {x y} h => hshift x y (by simp [ha]) h
    | some a =>
      rw [List.filterMap_cons_some ha, eraseDups_cons_eq, List.pairwise_cons]
      constructor
      · intro y hy
        have hya : y ≠ a := by simpa using (List.mem_filter.mp hy).2
        refine ⟨0, ha, fun j hj => ?_⟩
        obtain rfl := Nat.le_zero.mp hj
        rw [List.drop_zero, ha]
        exact fun h => hya (Option.some.inj h).symm
      · refine (ih.filter _).imp_of_mem fun {x y} _ hy h => hshift x y ?_ h
        have hya : y ≠ a := by simpa using (List.mem_filter.mp hy).2
        rw [ha]
        exact fun h => hya (Option.some.inj h).symm

/-- **A scan lists all texts of its shape** that stand in a text. -/
theorem listed_eraseDups_hits {match? : Text → Option Text} {Shape : Text → Prop}
    (hm : Anchored match? id) (hi : Isolated match? id)
    (hmatch : ∀ t x, match? t = some x ↔ Shape x ∧ x <+: t) (t : Text) :
    Listed Shape t (cut match? id t).hits.eraseDups := by
  rw [hits_cut_eq_filterMap_tails hm hi]
  refine ⟨fun x => ?_, nodup_eraseDups _, ?_⟩
  · simp only [List.mem_eraseDups, List.mem_filterMap, List.mem_tails, hmatch, List.infix_iff_prefix_suffix]
    constructor
    · rintro ⟨u, hu, hx, hpre⟩
      exact ⟨hx, u, hpre, hu⟩
    · rintro ⟨hx, u, hpre, hu⟩
      exact ⟨u, hu, hx, hpre⟩
  · refine (pairwise_eraseDups_filterMap_tails match? t).imp_of_mem fun {x y} hx hy h => ?_
    obtain ⟨i, hi, hbefore⟩ := h
    obtain ⟨u, -, hu⟩ := List.mem_filterMap.mp (List.mem_eraseDups.mp hy)
    refine ⟨i, ((hmatch _ x).mp hi).2, fun j hj hpre => hbefore j hj ?_⟩
    exact (hmatch _ y).mpr ⟨((hmatch u y).mp hu).1, hpre⟩

end PromptTemplate.Text
