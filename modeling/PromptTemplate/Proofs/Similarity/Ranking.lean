import PromptTemplate.Proofs.Similarity.Score
import PromptTemplate.Proofs.Sort

/-!
# The candidates that are suggested

Of the candidates that are close enough to a target, each once and the target left out, the first few of a
ranking are suggested: the higher score comes first, and of equal scores the one that stands first among the
candidates (`findSimilar_exact`). A candidate is close when its score is above the threshold as a floating-point
number. That leaves out a candidate whose score is above a threshold that the score is rounded to
(`findSimilar_leaves_out_nearest`), and no other.
-/

namespace PromptTemplate

open Text

namespace Similarity

variable {target : Text} {candidates : List Text} {threshold : Binary64}

/-- The higher score comes first, and of equal scores the candidate with the first place. -/
def RanksBefore (target : Text) (candidates : List Text) (a b : Text) : Prop :=
  (score target b).value < (score target a).value ∨
    (score target a).value = (score target b).value ∧ candidates.idxOf a < candidates.idxOf b

/-- The candidates of a class in the order of their ranks, the target left out. -/
structure IsRanking (target : Text) (candidates : List Text) (IsClose : Text → Prop) (best : List Text) :
    Prop where
  mem_iff : ∀ c, c ∈ best ↔ c ∈ candidates ∧ c ≠ target ∧ IsClose c
  ordered : best.Pairwise (RanksBefore target candidates)

theorem RanksBefore.ne {a b : Text} (h : RanksBefore target candidates a b) : a ≠ b := by
  rintro rfl
  rcases h with h | ⟨-, h⟩
  · exact lt_irrefl _ h
  · exact lt_irrefl _ h

namespace IsRanking

variable {IsClose : Text → Prop} {best : List Text} {c : Text}

theorem nodup (h : IsRanking target candidates IsClose best) : best.Nodup := h.ordered.imp RanksBefore.ne

/-- What is left out behind the first few ranks behind each of them. -/
theorem ranksBefore_of_notMem_take (h : IsRanking target candidates IsClose best) {limit : Nat}
    (hc : c ∈ best) (hleft : c ∉ best.take limit) {r : Text} (hr : r ∈ best.take limit) :
    RanksBefore target candidates r c := by
  have hordered := h.ordered
  rw [← List.take_append_drop limit best] at hc hordered
  exact (List.pairwise_append.mp hordered).2.2 r hr c ((List.mem_append.mp hc).resolve_left hleft)

end IsRanking

/-- The candidates are filtered first and then sorted. -/
theorem ranked_eq (threshold : Binary64) (target : Text) (candidates : List Text) :
    ranked threshold target candidates =
      (((candidates.filter (· ≠ target)).eraseDups.filter fun c =>
        threshold.lt (score target c).toBinary64).mergeSort
          fun a b => (score target b).le (score target a)) := by
  unfold ranked
  dsimp only
  rw [List.filter_map, ← List.map_mergeSort (r := fun a b => (score target b).le (score target a))
    (fun _ _ _ _ => rfl), List.map_map]
  exact List.map_id _

theorem isRanking_ranked (threshold : Binary64) (target : Text) (candidates : List Text) :
    IsRanking target candidates (fun c => threshold.lt (score target c).toBinary64 = true)
      (ranked threshold target candidates) := by
  rw [ranked_eq]
  refine ⟨fun c => by simp [and_assoc], ?_⟩
  have hplaces : ((candidates.filter (· ≠ target)).eraseDups.filter fun c =>
      threshold.lt (score target c).toBinary64).Pairwise fun a b => candidates.idxOf a < candidates.idxOf b := by
    rw [eraseDups_filter]
    exact ((pairwise_idxOf_eraseDups candidates).filter _).filter _
  have hkey : ∀ a b : Text, (score target b).le (score target a) = true ↔
      -(score target a).value ≤ -(score target b).value := fun a b => by
    rw [Ratio.le_iff_value_le (isScore_score target b).pos (isScore_score target a).pos, neg_le_neg_iff]
  refine (pairwise_mergeSort_lex hkey hplaces).imp fun {a b} h => ?_
  rwa [neg_lt_neg_iff, neg_inj] at h

/-- **The suggestions are the first of the ranking** of the candidates whose score as a floating-point number
is above the threshold. Such numbers are in the order of the scores, and a score above the threshold counts
unless it is rounded to the threshold. -/
theorem findSimilar_exact (target : Text) (candidates : List Text) (limit : Nat) (threshold : Binary64) :
    let found := findSimilar target candidates limit threshold
    let IsClose (c : Text) : Prop := threshold.lt (score target c).toBinary64 = true
    (∃ best, IsRanking target candidates IsClose best ∧ found = best.take limit) ∧
    (found.Nodup ∧ target ∉ found ∧ found.length ≤ limit ∧
      ∀ c ∈ candidates, c ≠ target → IsClose c → c ∉ found → ∀ r ∈ found, RanksBefore target candidates r c) ∧
    (∀ a b, (score target a).toBinary64.lt (score target b).toBinary64 = true ↔
      (score target a).value < (score target b).value) ∧
    (threshold.InRange → ∀ c, IsClose c ↔
      threshold.IsBelow (score target c).value ∧ threshold.toRat? ≠ (score target c).toBinary64.toRat?) := by
  intro found IsClose
  have hranking := isRanking_ranked threshold target candidates
  have hfound : found = (ranked threshold target candidates).take limit := rfl
  refine ⟨⟨_, hranking, hfound⟩, ⟨?_, fun hmem => ?_, ?_, fun c hc hne hclose hleft r hr => ?_⟩,
    fun a b => (isScore_score target a).toBinary64_lt_iff (isScore_score target b),
    fun hrange c => (isScore_score target c).lt_toBinary64_iff hrange⟩
  · exact hfound ▸ hranking.nodup.sublist (List.take_sublist _ _)
  · rw [hfound] at hmem
    exact ((hranking.mem_iff target).mp (List.mem_of_mem_take hmem)).2.1 rfl
  · exact hfound ▸ List.length_take_le _ _
  · rw [hfound] at hleft hr
    exact hranking.ranksBefore_of_notMem_take ((hranking.mem_iff c).mpr ⟨hc, hne, hclose⟩) hleft hr

/-- A candidate that holds part of the target and stands twice is suggested, and one before it that shares two
letters of three is left out. -/
theorem findSimilar_exact_one :
    let candidates : List Text := ["bcd", "ab", "abc", "ab", "xyz"]
    let threshold := Binary64.ofDecimal false 5 (-1)
    let found := findSimilar "abc" candidates 1 threshold
    found = [Text.ofString "ab"] ∧ threshold.InRange ∧ threshold.lt (score "abc" "bcd").toBinary64 = true ∧
      threshold.IsBelow (score "abc" "bcd").value ∧ RanksBefore "abc" candidates "ab" "bcd" := by
  intro candidates threshold found
  obtain ⟨-, ⟨-, -, -, hranks⟩, -, hthreshold⟩ := findSimilar_exact "abc" candidates 1 threshold
  have hfound : findSimilar "abc" candidates (1 : Nat) threshold = [Text.ofString "ab"] := by
    have hclose : (candidates.filter (· ≠ Text.ofString "abc")).eraseDups.filter
        (fun c => threshold.lt (score "abc" c).toBinary64) = [Text.ofString "bcd", Text.ofString "ab"] := by
      decide +kernel
    have hscores : (score "abc" "ab").le (score "abc" "bcd") = false := by decide +kernel
    rw [findSimilar, ranked_eq, hclose]
    simp [List.mergeSort, hscores, takeSigned]
  have hrange : threshold.InRange := by
    have heq : threshold = .finite false (2 ^ 52) (-53) := by decide +kernel
    rw [heq]
    exact ⟨by decide, by decide, by decide⟩
  have hclose : threshold.lt (score "abc" "bcd").toBinary64 = true := by decide +kernel
  rw [hfound] at hranks
  exact ⟨hfound, hrange, hclose, ((hthreshold hrange _).mp hclose).1,
    hranks "bcd" (by decide) (by decide) hclose (by decide) "ab" (by decide)⟩

/-- Two letters of three are shared, and the number nearest to the score is below it: with this number for a
threshold nothing is suggested. -/
theorem findSimilar_leaves_out_nearest :
    let threshold := Binary64.ofDecimal false 6666666666666666 (-16)
    ¬ ∃ best, IsRanking "abc" ["bcd"] (fun c => threshold.IsBelow (score "abc" c).value) best ∧
      findSimilar "abc" ["bcd"] defaultLimit threshold = best.take 3 := by
  rintro threshold ⟨best, hranking, hfound⟩
  have hnone : findSimilar "abc" ["bcd"] defaultLimit threshold = [] := by decide +kernel
  have hthreshold : threshold = .finite false 6004799503160661 (-53) := by decide +kernel
  have hscore : score "abc" "bcd" = ⟨4, 6⟩ := by decide +kernel
  have hbelow : threshold.IsBelow (score "abc" "bcd").value := by
    rw [hthreshold, hscore]
    norm_num [Binary64.IsBelow, Ratio.value, Numeral.signed]
  have hmem : Text.ofString "bcd" ∈ best := (hranking.mem_iff _).mpr ⟨by decide, by decide, hbelow⟩
  rw [hnone, eq_comm, List.take_eq_nil_iff] at hfound
  rcases hfound with h | h
  · cases h
  · exact List.not_mem_nil (h ▸ hmem)

end Similarity

end PromptTemplate
