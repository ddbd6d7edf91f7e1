import Mathlib.Data.List.Sort
import PromptTemplate.Proofs.Template.Occurrences
import PromptTemplate.Proofs.Validation.Agreement

/-!
# Reading without bare tokens

A template is read strictly or with bare keys as field tokens. An explicit token has a keyword or is one of
the words for all fields or all notes (`IsExplicit`), and reading strictly finds the explicit tokens among
those that are found with bare ones, at the same places (`occurrences_false_eq_filter`). For what is found is every
token of the grammar in the order of its place, in either mode, so a bare token takes nothing from an
explicit one. What is wrong with a template that is read strictly is wrong with it in any case
(`errors_strict_sublist`).
-/

namespace PromptTemplate

open Text

/-- A text with a keyword and a key, or with the word for all fields or all notes, between its braces. -/
def IsExplicit (u : Text) : Prop := (∃ kind key, IsPrefixed kind key u) ∨ ∃ kind, IsWhole kind u

theorem isToken_false_iff {u : Text} : IsToken false u ↔ IsExplicit u := by simp [IsToken, IsExplicit]

instance (u : Text) : Decidable (IsExplicit u) :=
  decidable_of_iff ((Token.at? false u).map Token.raw = some u) <| by
    rw [← isToken_false_iff, isToken_iff_exists_spelled, Option.map_eq_some_iff]
    refine exists_congr fun k => and_congr_left fun hraw => ?_
    rw [Token.at?_eq_some_iff, hraw]
    exact and_iff_left List.prefix_rfl

namespace Token

variable {k : Token}

/-- **The strict tokens are the explicit ones** among all tokens, and they say the same in both modes. -/
theorem spelled_false_iff : k.Spelled false ↔ k.Spelled true ∧ IsExplicit k.raw := by
  constructor
  · intro h
    refine ⟨?_, isToken_false_iff.mp h.isToken⟩
    cases h with
    | prefixed h => exact .prefixed h
    | whole hp h hkey => exact .whole hp h hkey
    | bare hb _ _ _ _ => cases hb
  · rintro ⟨h, hexplicit⟩
    cases h with
    | prefixed h => exact .prefixed h
    | whole hp h hkey => exact .whole hp h hkey
    | bare _ hp hw _ _ =>
      rcases hexplicit with ⟨kind, key, h⟩ | ⟨kind, h⟩
      · exact absurd h (hp kind key)
      · exact absurd h (hw kind)

end Token

namespace Template

/-- The strict occurrences are the explicit ones among all occurrences. -/
theorem occurrences_false_eq_filter (t : Text) :
    occurrences false t = (occurrences true t).filter fun o => IsExplicit o.token.raw := by
  simp only [occurrences_eq_occurrencesAt]
  have : Std.Irrefl fun o o' : Occurrence => o.start < o'.start := ⟨fun _ => Nat.lt_irrefl _⟩
  have : Std.Antisymm fun o o' : Occurrence => o.start < o'.start :=
    ⟨fun _ _ h h' => absurd h' (Nat.lt_asymm h)⟩
  refine (pairwise_start_occurrencesAt 0 t).eq_of_mem_iff ((pairwise_start_occurrencesAt 0 t).filter _)
    fun o => ?_
  rw [List.mem_filter, mem_occurrencesAt_iff, mem_occurrencesAt_iff, decide_eq_true_iff,
    Token.spelled_false_iff]
  tauto

end Template

namespace Validation

/-- The faults of syntax are the diagnostics without a token, in either mode. -/
theorem filter_isNone_errors (t : Text) (s : Snapshot) (bare : Bool) :
    (ofTemplate t s bare).errors.filter (·.token.isNone) =
      (SyntaxCheck.faults (Escape.protect t)).map .ofSyntax := by
  have hsyntax : ∀ d ∈ (SyntaxCheck.faults (Escape.protect t)).map Diagnostic.ofSyntax,
      d.token.isNone = true := by
    intro d hd
    obtain ⟨f, -, rfl⟩ := List.mem_map.mp hd
    rfl
  have htoken : ∀ d ∈ (Template.occurrences bare (Escape.protect t)).filterMap
      (fun o => Diagnostic.ofToken? s o.token), ¬ d.token.isNone = true := by
    intro d hd
    obtain ⟨o, -, ho⟩ := List.mem_filterMap.mp hd
    simp [Diagnostic.token_of_ofToken?_eq_some ho]
  simp only [ofTemplate, List.filter_append]
  rw [List.filter_eq_self.mpr hsyntax, List.filter_eq_nil_iff.mpr htoken, List.append_nil]

/-- The errors of strict reading come in the same order with bare tokens. -/
theorem errors_strict_sublist (t : Text) (s : Snapshot) :
    (ofTemplate t s false).errors.Sublist (ofTemplate t s true).errors := by
  simp only [ofTemplate, Template.occurrences_false_eq_filter]
  exact (List.Sublist.refl _).append (List.filter_sublist.filterMap _)

/-- **Strict reading leaves out the bare tokens and nothing else.** The other tokens keep their places and
order, every fault of syntax is found, the tokens that are reported are reported with bare tokens too, and
a template that is valid with them is valid without. -/
theorem strict_leaves_out_bare (t : Text) (s : Snapshot) :
    (∀ u, Template.occurrences false u =
      (Template.occurrences true u).filter fun o => IsExplicit o.token.raw) ∧
    (ofTemplate t s false).errors.Sublist (ofTemplate t s true).errors ∧
    (ofTemplate t s false).errors.filter (·.token.isNone) =
      (ofTemplate t s true).errors.filter (·.token.isNone) ∧
    ((ofTemplate t s true).isValid → (ofTemplate t s false).isValid) := by
  have hsub := errors_strict_sublist t s
  refine ⟨Template.occurrences_false_eq_filter, hsub, ?_, fun hvalid => ?_⟩
  · rw [filter_isNone_errors, filter_isNone_errors]
  · rw [isValid, List.isEmpty_iff] at hvalid ⊢
    rw [hvalid] at hsub
    exact List.sublist_nil.mp hsub

/-- A bare token before an explicit one, a bare one in a third brace, and words in capitals. -/
theorem strict_leaves_out_bare_mixed :
    let t : Text := "{{a}}{{FIELD:a}}{{{b}}}{{Notes_JSON}}"
    let s : Snapshot := { fields := [{ key := "a", label := "A", sectionId := "x" },
      { key := "b", label := "B", sectionId := "x" }] }
    (ofTemplate t s true).isValid ∧ (ofTemplate t s false).isValid ∧
      (Template.occurrences false t).map (fun o => (o.start, o.stop)) = [(5, 16), (23, 37)] := by
  intro t s
  have hvalid : (ofTemplate t s true).isValid := by decide
  obtain ⟨hoccurrences, -, -, hstrict⟩ := strict_leaves_out_bare t s
  refine ⟨hvalid, hstrict hvalid, ?_⟩
  rw [hoccurrences]
  decide

end Validation

end PromptTemplate
