import PromptTemplate.Proofs.Template.Grammar

/-!
# Every token is found

The scan for tokens passes over the code points of a token it has found, so in general it could miss a
token that begins among them. Tokens do not overlap, so none is missed: a token of the grammar at any
place of a template is an occurrence, and nothing else is (`mem_occurrencesAt_iff`,
`occurrences_exact`).
-/

namespace PromptTemplate.Template

open Text Token

variable {bare : Bool}

/-- The occurrences in a template that begins at offset `n`. -/
def occurrencesAt (bare : Bool) (n : Nat) (t : Text) : List Occurrence :=
  occurrencesFrom (n + (cut bare t).lead.length) (cut bare t).rest

theorem occurrences_eq_occurrencesAt (t : Text) : occurrences bare t = occurrencesAt bare 0 t := by
  simp [occurrences, occurrencesAt]

/-! ### The steps of the scan -/

theorem occurrencesAt_nil (n : Nat) : occurrencesAt bare n [] = [] := rfl

theorem occurrencesAt_cons {c : CodePoint} {t : Text} (h : Token.at? bare (c :: t) = none) (n : Nat) :
    occurrencesAt bare n (c :: t) = occurrencesAt bare (n + 1) t := by
  unfold occurrencesAt cut
  rw [cut_cons_of_none h]
  simp only [Cut.cons, List.length_cons]
  congr 1
  omega

theorem occurrencesAt_append {k : Token} (hk : k.Spelled bare) (t : Text) (n : Nat) :
    occurrencesAt bare n (k.raw ++ t) =
      ⟨k, n, n + k.raw.length⟩ :: occurrencesAt bare (n + k.raw.length) t := by
  unfold occurrencesAt cut
  rw [cut_append_of_some hk.isToken.ne_nil (at?_eq_some_of_spelled hk t)]
  rfl

/-! ### What is found -/

/-- **The tokens of the grammar are the occurrences**, wherever they stand. -/
theorem mem_occurrencesAt_iff {o : Occurrence} {n : Nat} {t : Text} :
    o ∈ occurrencesAt bare n t ↔
      o.token.Spelled bare ∧ ∃ a b, t = a ++ (o.token.raw ++ b) ∧ o.start = n + a.length ∧
        o.stop = n + a.length + o.token.raw.length := by
  induction t using cut_induction (@anchored_at? bare) generalizing n with
  | nil =>
    simp only [occurrencesAt_nil, List.not_mem_nil, false_iff]
    rintro ⟨hk, a, b, h, -⟩
    exact hk.isToken.ne_nil (by simp_all)
  | literal c t hc ih =>
    rw [occurrencesAt_cons hc, ih]
    refine and_congr_right fun hk => ?_
    constructor
    · rintro ⟨a, b, rfl, hstart, hstop⟩
      refine ⟨c :: a, b, rfl, ?_, ?_⟩ <;> simp only [List.length_cons] <;> omega
    · rintro ⟨a, b, h, hstart, hstop⟩
      cases a with
      | nil =>
        rw [h, List.nil_append, at?_eq_some_of_spelled hk] at hc
        cases hc
      | cons d a =>
        obtain ⟨rfl, rfl⟩ := List.cons.inj h
        simp only [List.length_cons] at hstart hstop
        exact ⟨a, b, rfl, by omega, by omega⟩
  | hit k t _ hk ih =>
    have hk := (at?_eq_some_iff.mp hk).1
    rw [occurrencesAt_append hk, List.mem_cons, ih]
    constructor
    · rintro (rfl | ⟨ho, a, b, rfl, hstart, hstop⟩)
      · exact ⟨hk, [], t, rfl, by simp, by simp⟩
      · refine ⟨ho, k.raw ++ a, b, (List.append_assoc ..).symm, ?_, ?_⟩ <;>
          simp only [List.length_append] <;> omega
    · rintro ⟨ho, a, b, h, hstart, hstop⟩
      -- tokens do not overlap, so this one is `k` or begins after the whole of it
      rcases (hk.append_eq_append_iff ho).mp h with ⟨rfl, hok, -⟩ | ⟨a, rfl, ht⟩
      · left
        obtain ⟨tok, start, stop⟩ := o
        subst hok
        simp only [List.length_nil, Nat.add_zero] at hstart hstop
        rw [hstart, hstop]
      · right
        simp only [List.length_append] at hstart hstop
        exact ⟨ho, a, b, ht, by omega, by omega⟩

theorem le_start_of_mem_occurrencesAt {o : Occurrence} {n : Nat} {t : Text}
    (h : o ∈ occurrencesAt bare n t) : n ≤ o.start := by
  obtain ⟨-, a, b, -, hstart, -⟩ := mem_occurrencesAt_iff.mp h
  omega

/-- Each occurrence ends before the next one begins. -/
theorem pairwise_occurrencesAt (n : Nat) (t : Text) :
    (occurrencesAt bare n t).Pairwise fun o o' => o.stop ≤ o'.start := by
  induction t using cut_induction (@anchored_at? bare) generalizing n with
  | nil => exact .nil
  | literal c t hc ih =>
    rw [occurrencesAt_cons hc]
    exact ih (n + 1)
  | hit k t _ hk ih =>
    rw [occurrencesAt_append (at?_eq_some_iff.mp hk).1]
    exact .cons (fun o ho => le_start_of_mem_occurrencesAt ho) (ih _)

/-- Occurrences stand in the order of their places. -/
theorem pairwise_start_occurrencesAt (n : Nat) (t : Text) :
    (occurrencesAt bare n t).Pairwise fun o o' => o.start < o'.start := by
  refine (pairwise_occurrencesAt n t).imp_of_mem fun {o o'} ho _ h => ?_
  obtain ⟨hk, a, b, -, hstart, hstop⟩ := mem_occurrencesAt_iff.mp ho
  have hlen := List.length_pos_iff.mpr hk.isToken.ne_nil
  omega

/-- No occurrence is found twice. -/
theorem nodup_occurrencesAt (n : Nat) (t : Text) : (occurrencesAt bare n t).Nodup := by
  refine (pairwise_start_occurrencesAt n t).imp fun h heq => ?_
  rw [heq] at h
  exact Nat.lt_irrefl _ h

/-! ### Spans -/

theorem extract_append (a u b : Text) : (a ++ (u ++ b)).extract a.length (a.length + u.length) = u := by
  simp [List.extract_eq_take_drop]

theorem eq_append_extract {t : Text} {i j : Nat} (hne : t.extract i j ≠ []) :
    t = t.take i ++ (t.extract i j ++ t.drop j) ∧ i < j := by
  have hij : i < j := by
    have hlen := List.length_pos_iff.mpr hne
    simp only [List.extract_eq_take_drop, List.length_take, List.length_drop] at hlen
    omega
  refine ⟨?_, hij⟩
  have hdrop : t.drop j = (t.drop i).drop (j - i) := by
    rw [List.drop_drop]
    congr 1
    omega
  rw [hdrop, List.extract_eq_take_drop, List.take_append_drop, List.take_append_drop]

/-- The spans of the occurrences are the places where the template holds a token of the grammar. -/
theorem exists_mem_occurrences_iff {t : Text} {i j : Nat} :
    (∃ o ∈ occurrences bare t, o.start = i ∧ o.stop = j) ↔
      j ≤ t.length ∧ IsToken bare (t.extract i j) := by
  rw [occurrences_eq_occurrencesAt]
  constructor
  · rintro ⟨o, ho, rfl, rfl⟩
    obtain ⟨hk, a, b, rfl, hstart, hstop⟩ := mem_occurrencesAt_iff.mp ho
    rw [Nat.zero_add] at hstart hstop
    rw [hstart, hstop, extract_append]
    exact ⟨by simp only [List.length_append]; omega, hk.isToken⟩
  · rintro ⟨hj, hu⟩
    obtain ⟨ht, hij⟩ := eq_append_extract hu.ne_nil
    obtain ⟨k, hk, hraw⟩ := isToken_iff_exists_spelled.mp hu
    rw [← hraw] at ht
    refine ⟨⟨k, i, j⟩, mem_occurrencesAt_iff.mpr ⟨hk, t.take i, t.drop j, ht, ?_, ?_⟩, rfl, rfl⟩
    · simp only [List.length_take]
      omega
    · simp only [hraw, List.extract_eq_take_drop, List.length_take, List.length_drop]
      omega

/-- **The scan finds exactly the tokens of the grammar**, one after the other, and reads each of them in
the first form that fits. -/
theorem occurrences_exact (bare : Bool) (t : Text) :
    (∀ i j, (∃ o ∈ occurrences bare t, o.start = i ∧ o.stop = j) ↔
      j ≤ t.length ∧ IsToken bare (t.extract i j)) ∧
    (occurrences bare t).Pairwise (fun o o' => o.start < o'.start ∧ o.stop ≤ o'.start) ∧
    ∀ o ∈ occurrences bare t, o.token.raw = t.extract o.start o.stop ∧ o.token.Spelled bare := by
  refine ⟨fun i j => exists_mem_occurrences_iff, ?_, ?_⟩ <;> rw [occurrences_eq_occurrencesAt]
  · refine (pairwise_occurrencesAt 0 t).imp_of_mem fun {o o'} ho _ h => ⟨?_, h⟩
    obtain ⟨hk, a, b, -, hstart, hstop⟩ := mem_occurrencesAt_iff.mp ho
    have hlen := List.length_pos_iff.mpr hk.isToken.ne_nil
    omega
  · intro o ho
    obtain ⟨hk, a, b, rfl, hstart, hstop⟩ := mem_occurrencesAt_iff.mp ho
    rw [Nat.zero_add] at hstart hstop
    rw [hstart, hstop, extract_append]
    exact ⟨rfl, hk⟩

/-- In a run of three braces the token takes the inner two. -/
example : (occurrences true "{{{a}}}").map (fun o => (o.start, o.stop)) = [(1, 6)] := by decide

end PromptTemplate.Template
