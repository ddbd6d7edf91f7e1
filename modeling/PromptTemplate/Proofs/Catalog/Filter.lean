import Mathlib.Data.List.Basic
import PromptTemplate.Catalog
import PromptTemplate.Proofs.Text.Case
import PromptTemplate.Proofs.Text.Cut

/-!
# What the filter keeps

The filter lower-cases the query and each label and token by itself, so it can leave out an entry that holds
the query as it is written: a capital sigma of the query may have another form in the entry. It keeps all
such entries exactly for the queries whose sigmas are settled (`filter_keeps_literal`), those without a
capital sigma among them. Whatever the query, the entries that are kept stay in order.
-/

namespace PromptTemplate

open Text

namespace Catalog

/-- The entries whose label and token pass a test. -/
def keep (c : Catalog) (p : Text → Text → Bool) : Catalog where
  fields := c.fields.filter fun e => p e.label e.token
  sections := c.sections.filter fun e => p e.label e.token
  notes := c.notes.filter fun e => p e.label e.token
  whole := c.whole.filter fun e => p e.label e.token

/-- The entries whose label or token holds a text as it is written. -/
def literal (c : Catalog) (q : Text) : Catalog := c.keep fun label token => label.has q || token.has q

/-- Each group of `kept` is a part of that group of `c`, in its order. -/
structure IsPart (kept c : Catalog) : Prop where
  fields : kept.fields.Sublist c.fields
  sections : kept.sections.Sublist c.sections
  notes : kept.notes.Sublist c.notes
  whole : kept.whole.Sublist c.whole

theorem keep_isPart (c : Catalog) (p : Text → Text → Bool) : (c.keep p).IsPart c :=
  ⟨List.filter_sublist, List.filter_sublist, List.filter_sublist, List.filter_sublist⟩

theorem keep_isPart_keep {p p' : Text → Text → Bool} (h : ∀ label token, p label token → p' label token)
    (c : Catalog) : (c.keep p).IsPart (c.keep p') :=
  ⟨List.monotone_filter_right _ fun _ => h _ _, List.monotone_filter_right _ fun _ => h _ _,
    List.monotone_filter_right _ fun _ => h _ _, List.monotone_filter_right _ fun _ => h _ _⟩

theorem isMatch_eq_true_iff {needle label token : Text} :
    isMatch needle label token = true ↔ needle <:+: label.lower ∨ needle <:+: token.lower := by
  rw [isMatch, Bool.or_eq_true, has_eq_true_iff, has_eq_true_iff]

/-- The empty query is no exception: it is a part of every text. -/
theorem filter_eq_keep (c : Catalog) (q : Text) : c.filter q = c.keep (isMatch q.lower) := by
  unfold filter
  dsimp only
  split
  · have hq : q.lower = [] := List.isEmpty_iff.mp ‹_›
    have hall (label token : Text) : isMatch q.lower label token = true :=
      isMatch_eq_true_iff.mpr (.inl (hq ▸ List.nil_infix))
    simp [keep, hall, List.filter_true]
  · rfl

/-- The token of the field `k` has no sigma. -/
theorem sigma_notMem_token :
    smallSigma ∉ (TokenKind.field.token "k").lower ∧ finalSigma ∉ (TokenKind.field.token "k").lower := by
  decide +kernel

/-- A query that is not settled leaves out the field that has for its label a text which holds the query. -/
theorem exists_not_literal_isPart_filter {q : Text} (hq : ¬ IsSettled q) :
    ∃ s : Snapshot, ¬ ((ofSnapshot s).literal q).IsPart ((ofSnapshot s).filter q) := by
  obtain ⟨⟨t, ht, hlost⟩, hsigma⟩ := exists_infix_not_lower hq
  have htoken : ¬ q.lower <:+: (TokenKind.field.token "k").lower := fun h =>
    hsigma.elim (fun hx => sigma_notMem_token.1 (h.mem hx)) fun hx => sigma_notMem_token.2 (h.mem hx)
  let f : Field := { key := "k", label := t, sectionId := "s" }
  refine ⟨{ fields := [f] }, fun h => ?_⟩
  have hmem : FieldEntry.ofField f ∈ ((ofSnapshot { fields := [f] }).literal q).fields :=
    List.mem_filter.mpr ⟨List.mem_singleton_self _, by simp [FieldEntry.ofField, f, has_eq_true_iff.mpr ht]⟩
  have hkept := h.fields.subset hmem
  rw [filter_eq_keep] at hkept
  exact (isMatch_eq_true_iff.mp (List.mem_filter.mp hkept).2).elim hlost htoken

/-- **The filter keeps literal matches** of every catalog exactly where the query is settled, and what it keeps
stays in order. -/
theorem filter_keeps_literal (q : Text) :
    (∀ c : Catalog, (c.filter q).IsPart c) ∧
    (IsSettled q → ∀ c : Catalog, (c.literal q).IsPart (c.filter q)) ∧
    (¬ IsSettled q → ∃ s : Snapshot, ¬ ((ofSnapshot s).literal q).IsPart ((ofSnapshot s).filter q)) := by
  refine ⟨fun c => ?_, fun hq c => ?_, exists_not_literal_isPart_filter⟩
  · rw [filter_eq_keep]
    exact keep_isPart c _
  · rw [filter_eq_keep]
    refine keep_isPart_keep (fun label token h => isMatch_eq_true_iff.mpr ?_) c
    rw [Bool.or_eq_true, has_eq_true_iff, has_eq_true_iff] at h
    exact h.imp (infix_lower_of_isSettled hq) (infix_lower_of_isSettled hq)

/-- A capital outside ASCII. -/
theorem filter_keeps_literal_accent :
    let s : Snapshot := { fields := [{ key := "k", label := "CAF\u00C9", sectionId := "s" }] }
    let q : Text := "F\u00C9"
    ((ofSnapshot s).literal q).IsPart ((ofSnapshot s).filter q) ∧
      ((ofSnapshot s).literal q).fields = (ofSnapshot s).fields := by
  refine ⟨(filter_keeps_literal _).2.1 (isSettled_of_notMem ?_) _, ?_⟩ <;> decide

/-- A label of two capitals holds the second of them, and is left out when that one is searched for. -/
theorem filter_hides_sigma :
    let s : Snapshot := { fields := [{ key := "k", label := "\u0391\u03A3", sectionId := "s" }] }
    let q : Text := [capitalSigma]
    ((ofSnapshot s).literal q).fields = (ofSnapshot s).fields ∧ (ofSnapshot s).fields ≠ [] ∧
      ((ofSnapshot s).filter q).fields = [] := by
  decide +kernel

end Catalog

end PromptTemplate
