import PromptTemplate.Prompt
import PromptTemplate.Proofs.Template.Canonical
import PromptTemplate.Proofs.Template.Insertion
import PromptTemplate.Proofs.Text.Scalar

/-!
# Prompts

A prompt is refused with the diagnostics of its template if it has to be valid and is not
(`Prompt.build_of_not_isValid`). Otherwise it is the resolution of the template, unless the template has no bytes
to take a digest of (`Prompt.build_of_isValid`). The summary of the tokens that gave nothing can be printed
(`Prompt.isScalar_summary`).
-/

namespace PromptTemplate

variable {template : Text} {s : Snapshot} {mode : ValidationMode} {bare : Bool}

/-- The tokens that gave nothing are written without lone surrogates. -/
theorem Template.isScalar_of_mem_tokens {u : Text}
    (h : u ∈ (resolveWithTokens template s bare).emptyTokens ∨
      u ∈ (resolveWithTokens template s bare).missingTokens) : u.isScalar = true := by
  have hraw : ∀ p : Token → Bool, u ∈ ((cut bare (Escape.protect template)).hits.filter p).map Token.raw →
      u.isScalar = true := by
    intro p hu
    obtain ⟨k, hk, rfl⟩ := List.mem_map.mp hu
    exact (spelled_of_mem_hits (List.mem_filter.mp hk).1).isScalar_raw
  rw [resolveWithTokens_eq] at h
  rcases h with h | h
  · exact hraw _ h
  · exact hraw _ h

namespace Prompt

theorem build_of_not_isValid (h : (Validation.ofTemplate template s bare).isValid = false) :
    build template s .error bare = .error (.invalid (Validation.ofTemplate template s bare)) := by
  simp [build, Option.filter_some, h]

/-- A template that is valid, or need not be, gets a prompt with its resolution, unless it has no digest. -/
theorem build_of_isValid (h : mode = .error → (Validation.ofTemplate template s bare).isValid = true) :
    (∃ f, build template s mode bare = .error (.unencodable f)) ∨
      ∃ p, build template s mode bare = .ok p ∧ p.text = (Template.resolveWithTokens template s bare).text ∧
        p.emptyTokens = (Template.resolveWithTokens template s bare).emptyTokens ∧
        p.missingTokens = (Template.resolveWithTokens template s bare).missingTokens := by
  have hnone : ((if mode = .off then none else some (Validation.ofTemplate template s bare)).filter fun v =>
      mode = .error && !v.isValid) = none := by
    cases mode with
    | error => simp [Option.filter_some, h rfl]
    | warn | off => simp [Option.filter_some]
  unfold build
  dsimp only
  rw [hnone]
  cases hashOf template with
  | error f => exact .inl ⟨f, rfl⟩
  | ok hash => exact .inr ⟨_, rfl, rfl, rfl, rfl⟩

/-- A prompt that has to be valid is. -/
theorem isValid_of_build {p : Prompt} (h : build template s mode bare = .ok p) (hmode : mode = .error) :
    (Validation.ofTemplate template s bare).isValid = true := by
  subst hmode
  by_contra hinvalid
  rw [build_of_not_isValid (by simpa using hinvalid)] at h
  cases h

/-- The summary of a prompt can be printed. -/
theorem isScalar_summary {p : Prompt} (h : build template s mode bare = .ok p) :
    (Template.resolutionSummary p.emptyTokens p.missingTokens).isScalar = true := by
  have hlist : ∀ ts : List Text, (∀ u ∈ ts, u.isScalar = true) →
      Text.isScalar (if ts.isEmpty then Text.ofString "none" else Text.joinWith ", " ts) = true := by
    intro ts hts
    split_ifs
    · rfl
    · exact Text.isScalar_joinWith (Text.isScalar_ofString ", ") hts
  rcases build_of_isValid (isValid_of_build h) with ⟨f, hfails⟩ | ⟨p', hp', -, hempty, hmissing⟩
  · rw [hfails] at h
    cases h
  · cases h.symm.trans hp'
    have hempty' := hlist p.emptyTokens fun u hu =>
      Template.isScalar_of_mem_tokens (.inl (by rwa [hempty] at hu))
    have hmissing' := hlist p.missingTokens fun u hu =>
      Template.isScalar_of_mem_tokens (.inr (by rwa [hmissing] at hu))
    refine Text.isScalar_joinWith (Text.isScalar_ofString "\n") ?_
    intro line hline
    simp only [List.mem_cons, List.not_mem_nil, or_false] at hline
    rcases hline with rfl | rfl | rfl
    · rfl
    · simpa using hempty'
    · simpa using hmissing'

end Prompt

end PromptTemplate
