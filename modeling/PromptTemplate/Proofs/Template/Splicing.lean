import Mathlib.Data.List.Nodup
import PromptTemplate.Proofs.Sort
import PromptTemplate.Proofs.Template.Occurrences
import PromptTemplate.Proofs.Template.Protected

/-!
# Values put in place

A template is resolved from left to right, with a text that grows. It can be done in place as well: each token
is cut out of the text and its value set there, the last token first. The places are those of the tokens in the
template as it was. A value changes what stands behind its token and nothing before it, so the places of the
tokens still to come stay good however long the values are and whatever they hold (`splice_append`). For a
template without escapes and without NUL both ways give one text (`splices_descending`).
-/

namespace PromptTemplate.Template

open Text Escape

/-- The text with the value of a token in the place of the occurrence. -/
def splice (s : Snapshot) (t : Text) (o : Occurrence) : Text :=
  t.take o.start ++ (Resolution.ofToken s o.token).value ++ t.drop o.stop

/-- The occurrences by descending start. -/
def descending (os : List Occurrence) : List Occurrence := os.mergeSort fun o o' => o'.start ≤ o.start

variable {s : Snapshot} {bare : Bool}

/-! ### One value after the other -/

/-- **One step**: the text before the place and the text behind it stay as they are. -/
theorem splice_append (k : Token) (u v : Text) :
    splice s (u ++ (k.raw ++ v)) ⟨k, u.length, u.length + k.raw.length⟩ =
      u ++ ((Resolution.ofToken s k).value ++ v) := by
  have htake : (u ++ (k.raw ++ v)).take u.length = u := List.take_left
  have hdrop : (u ++ (k.raw ++ v)).drop (u.length + k.raw.length) = v := by
    rw [← List.append_assoc, ← List.length_append, List.drop_left]
  rw [splice, htake, hdrop, List.append_assoc]

/-- The tokens of a text behind `u` with their values in place, the last one first: `u` is still there, and
the text behind it is filled in. -/
theorem foldr_splice_occurrencesAt {t : Text} (ht : nul ∉ t) (u : Text) :
    (occurrencesAt bare u.length t).foldr (fun o w => splice s w o) (u ++ t) = u ++ fill s bare t := by
  induction t using cut_induction (@Token.anchored_at? bare) generalizing u with
  | nil => rfl
  | literal c t hc ih =>
    rw [List.mem_cons, not_or] at ht
    have hsnoc := ih ht.2 (u ++ [c])
    rw [List.length_append, List.append_assoc, List.append_assoc] at hsnoc
    rw [occurrencesAt_cons hc, fill_cons ht.1 hc]
    exact hsnoc
  | hit k t _ hk ih =>
    have hspelled : k.Spelled bare := (Token.at?_eq_some_iff.mp hk).1
    have hrest := ih (fun h => ht (List.mem_append_right _ h)) (u ++ k.raw)
    rw [List.length_append, List.append_assoc, List.append_assoc] at hrest
    rw [occurrencesAt_append hspelled, List.foldr_cons, hrest, splice_append, fill_append_token hspelled]

/-! ### The order -/

theorem pairwise_start_occurrences (t : Text) :
    (occurrences bare t).Pairwise fun o o' => o.start < o'.start := by
  rw [occurrences_eq_occurrencesAt]
  exact pairwise_start_occurrencesAt 0 t

/-- There is one way to put the occurrences of a template in descending order: they stand the other way
round. -/
theorem eq_reverse_of_descending {t : Text} {os : List Occurrence} (hperm : os.Perm (occurrences bare t))
    (hsorted : os.Pairwise fun o o' => o'.start ≤ o.start) : os = (occurrences bare t).reverse := by
  have hnodup : ((occurrences bare t).map Occurrence.start).Nodup :=
    List.pairwise_map.mpr ((pairwise_start_occurrences t).imp Nat.ne_of_lt)
  have hreverse : (occurrences bare t).reverse.Pairwise fun o o' => o'.start ≤ o.start :=
    List.pairwise_reverse.mpr ((pairwise_start_occurrences t).imp Nat.le_of_lt)
  refine List.Perm.eq_of_pairwise (fun o o' ho ho' hge hle => ?_) hsorted hreverse
    (hperm.trans (List.reverse_perm _).symm)
  exact List.inj_on_of_nodup_map hnodup (hperm.mem_iff.mp ho) (List.mem_reverse.mp ho') (Nat.le_antisymm hle hge)

theorem descending_occurrences (t : Text) : descending (occurrences bare t) = (occurrences bare t).reverse := by
  refine eq_reverse_of_descending (List.mergeSort_perm _ _) ?_
  have hkey : ∀ o o' : Occurrence,
      decide (o'.start ≤ o.start) = true ↔ OrderDual.toDual o.start ≤ OrderDual.toDual o'.start :=
    fun _ _ => decide_eq_true_iff.trans OrderDual.toDual_le_toDual.symm
  exact pairwise_mergeSort hkey _

/-! ### Both ways to resolve -/

/-- Only the literal text of a template is unescaped, and without escapes there is nothing to unescape. -/
theorem resolve_eq_fill_of_isProtected {t : Text} (ht : IsProtected t) (s : Snapshot) (bare : Bool) :
    resolve t s bare = fill s bare t := by
  rw [resolve_eq_fill, protect_of_isProtected ht]

/-- **In place, the last token first, or from left to right**: the template resolved is the same text. -/
theorem splices_descending {t : Text} (hnul : nul ∉ t) (hescape : IsProtected t) (s : Snapshot) (bare : Bool) :
    (descending (occurrences bare t)).foldl (splice s) t = resolve t s bare := by
  have hrun : (occurrencesAt bare 0 t).foldr (fun o w => splice s w o) t = fill s bare t :=
    foldr_splice_occurrencesAt hnul []
  rw [descending_occurrences, List.foldl_reverse, occurrences_eq_occurrencesAt,
    resolve_eq_fill_of_isProtected hescape]
  exact hrun

/-- A value that is empty, one that reads as a token and an escape, and one that is missing. -/
theorem splices_descending_braces :
    let t : Text := TokenKind.field.token "x" ++ "-" ++ openBraces ++ "y" ++ closeBraces ++
      TokenKind.sectionNotes.token "z" ++ "."
    let y : Text := openEscape ++ TokenKind.field.token "x"
    let s : Snapshot :=
      { fields := [{ key := "x", label := "X", sectionId := "a" },
          { key := "y", label := "Y", value := some y, sectionId := "a" }] }
    nul ∉ t ∧ IsProtected t ∧ (occurrences true t).length = 3 ∧
      (descending (occurrences true t)).foldl (splice s) t = "-" ++ y ++ "[Section not found: z]." := by
  intro t y s
  have hnul : nul ∉ t := by decide
  have hescape : IsProtected t := by decide
  exact ⟨hnul, hescape, by decide, (splices_descending hnul hescape s true).trans (by decide)⟩

end PromptTemplate.Template
