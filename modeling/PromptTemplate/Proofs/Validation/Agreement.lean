import Mathlib.Data.List.Forall2
import PromptTemplate.Prompt
import PromptTemplate.Proofs.Text.Utf8

/-!
# What is reported and what is missing

Validation and resolution look at a token one after the other, each with its own case for every kind
of token. Both come down to one question, whether the token names something (`Token.NamesNothing`):
validation reports exactly the tokens that name nothing (`isSome_ofToken?_iff`), and resolution gives
a missing value for these and for the sections that are there without a field of their own
(`status_ofToken_eq_missing_iff`). So the diagnostics of a template can be read off its resolutions
(`errors_eq_missing`).
-/

namespace PromptTemplate

/-- The token names a field or a section that is not there. -/
def Token.NamesNothing (s : Snapshot) (k : Token) : Prop :=
  match k.kind with
  | .field => s.field? k.key = none
  | .sectionFields | .sectionNotes => s.section? k.key = none
  | .allFields | .allNotes => False

/-- The token stands for the fields of a section that is there. -/
def Token.NamesSection (s : Snapshot) (k : Token) : Prop :=
  k.kind = .sectionFields ∧ (s.section? k.key).isSome

instance (s : Snapshot) (k : Token) : Decidable (k.NamesSection s) := by
  unfold Token.NamesSection
  infer_instance

variable {s : Snapshot} {k : Token}

/-! ### One token -/

namespace Diagnostic

/-- **A token is reported** exactly when it names nothing. -/
theorem isSome_ofToken?_iff : (ofToken? s k).isSome ↔ k.NamesNothing s := by
  obtain ⟨kind, key, raw⟩ := k
  unfold ofToken? Token.NamesNothing
  cases kind with
  | field => cases h : s.field? key <;> simp
  | sectionFields | sectionNotes => cases h : s.section? key <;> simp
  | allFields | allNotes => simp

theorem token_of_ofToken?_eq_some {d : Diagnostic} (h : ofToken? s k = some d) :
    d.token = some k.raw := by
  unfold ofToken? at h
  split at h
  case h_4 | h_5 => cases h
  all_goals
    split at h
    · cases h
    · cases h
      rfl

end Diagnostic

namespace Resolution

theorem status_ofField_eq_missing_iff {key : Text} :
    (ofField s key).status = .missing ↔ s.field? key = none := by
  unfold ofField
  cases s.field? key with
  | none => simp [missing]
  | some f =>
    refine iff_of_false ?_ (by simp)
    dsimp only
    split
    · simp
    · split
      · simp
      · split
        · split <;> simp
        · simp

/-- A section is missing when it is not there or when no field is in it; these are told apart by the
message. -/
theorem ofSection_eq_missing_cases {id : Text} (h : (ofSection s id).status = .missing) :
    (s.section? id = none ∧ ofSection s id = missing "Section not found" id) ∨
      ∃ sec, s.section? id = some sec ∧ s.fieldsIn sec.id = [] ∧
        ofSection s id = missing "No fields in section" sec.title := by
  unfold ofSection at h ⊢
  cases hsec : s.section? id with
  | none => exact .inl ⟨rfl, rfl⟩
  | some sec =>
    simp only [hsec] at h
    cases hf : s.fieldsIn sec.id with
    | nil => exact .inr ⟨sec, rfl, hf, by simp [hf]⟩
    | cons f fs => simp [hf] at h

theorem status_ofSection_of_none {id : Text} (h : s.section? id = none) :
    (ofSection s id).status = .missing := by
  simp [ofSection, h, missing]

theorem status_ofNotes_eq_missing_iff {id : Text} :
    (ofNotes s id).status = .missing ↔ s.section? id = none := by
  unfold ofNotes
  cases s.section? id with
  | none => simp [missing]
  | some sec =>
    refine iff_of_false ?_ (by simp)
    dsimp only
    split <;> simp

/-- **A value is missing** when the token names nothing, or else a section without fields. -/
theorem status_ofToken_eq_missing_iff :
    (ofToken s k).status = .missing ↔
      k.NamesNothing s ∨
        k.kind = .sectionFields ∧ ∃ sec, s.section? k.key = some sec ∧ s.fieldsIn sec.id = [] := by
  obtain ⟨kind, key, raw⟩ := k
  cases kind with
  | field => simp [ofToken, Token.NamesNothing, status_ofField_eq_missing_iff]
  | sectionFields =>
    simp only [ofToken, Token.NamesNothing, true_and]
    constructor
    · intro h
      rcases ofSection_eq_missing_cases h with ⟨hnone, -⟩ | ⟨sec, hsec, hf, -⟩
      · exact .inl hnone
      · exact .inr ⟨sec, hsec, hf⟩
    · rintro (hnone | ⟨sec, hsec, hf⟩)
      · exact status_ofSection_of_none hnone
      · simp [ofSection, hsec, hf, missing]
  | sectionNotes => simp [ofToken, Token.NamesNothing, status_ofNotes_eq_missing_iff]
  | allFields | allNotes => simp [ofToken, Token.NamesNothing]

theorem missing_ne_missing_noFields {title subject : Text} :
    missing "No fields in section" title ≠ missing "Field not found" subject ∧
      missing "No fields in section" title ≠ missing "Section not found" subject := by
  constructor <;> simp [missing, placeholder, Text.ofString]

/-- A token that names something never shows one of the placeholders of a failed look-up as such. -/
theorem ofToken_ne_notFound (h : ¬ k.NamesNothing s) (subject : Text) :
    ofToken s k ≠ missing "Field not found" subject ∧
      ofToken s k ≠ missing "Section not found" subject := by
  by_cases hm : (ofToken s k).status = .missing
  · -- then it is a section without fields, whose placeholder is another one
    obtain ⟨hkind, sec, hsec, hf⟩ := (status_ofToken_eq_missing_iff.mp hm).resolve_left h
    have hval : ofToken s k = missing "No fields in section" sec.title := by
      simp [ofToken, hkind, ofSection, hsec, hf]
    rw [hval]
    exact missing_ne_missing_noFields
  · constructor <;> exact fun he => hm (by rw [he]; rfl)

end Resolution

/-- The tokens that are reported are those with a missing value, except the sections that are there. -/
theorem namesNothing_iff_missing :
    k.NamesNothing s ↔ (Resolution.ofToken s k).status = .missing ∧ ¬ k.NamesSection s := by
  rw [Resolution.status_ofToken_eq_missing_iff]
  constructor
  · intro h
    refine ⟨.inl h, fun ⟨hkind, hsome⟩ => ?_⟩
    have hnone : s.section? k.key = none := by simpa [Token.NamesNothing, hkind] using h
    simp [hnone] at hsome
  · rintro ⟨h | ⟨hkind, sec, hsec, -⟩, hnot⟩
    · exact h
    · exact absurd ⟨hkind, by simp [hsec]⟩ hnot

/-! ### A whole template -/

namespace Validation

variable {template : Text} {bare : Bool}

/-- The diagnostics of the tokens, without those of the syntax. -/
theorem filter_token_errors (template : Text) (s : Snapshot) (bare : Bool) :
    (ofTemplate template s bare).errors.filter (·.token.isSome) =
      (Template.resolutions template s bare).filterMap fun p => Diagnostic.ofToken? s p.1.token := by
  have hsyntax : ∀ fs : List SyntaxFault,
      (fs.map Diagnostic.ofSyntax).filter (·.token.isSome) = [] := fun fs => by
    simp [Diagnostic.ofSyntax]
  have htoken : ∀ os : List Occurrence,
      (os.filterMap fun o => Diagnostic.ofToken? s o.token).filter (·.token.isSome) =
        os.filterMap fun o => Diagnostic.ofToken? s o.token := by
    intro os
    refine List.filter_eq_self.mpr fun d hd => ?_
    obtain ⟨o, -, ho⟩ := List.mem_filterMap.mp hd
    simp [Diagnostic.token_of_ofToken?_eq_some ho]
  simp only [ofTemplate, List.filter_append, hsyntax, htoken, List.nil_append, Template.resolutions,
    List.filterMap_map]
  rfl

/-- What is found item by item stands beside the items it is found for. -/
theorem forall₂_filterMap {α β : Type} (f : α → Option β) {p : α → Bool}
    (hp : ∀ a, p a = (f a).isSome) (as : List α) :
    List.Forall₂ (fun b a => f a = some b) (as.filterMap f) (as.filter p) := by
  induction as with
  | nil => exact .nil
  | cons a as ih =>
    cases hf : f a with
    | none => simpa [List.filter_cons, hp, hf] using ih
    | some b => simpa [List.filter_cons, hp, hf] using ih

theorem exists_hashOf_eq_ok_iff : (∃ hash, Prompt.hashOf template = .ok hash) ↔ template.isScalar := by
  unfold Prompt.hashOf
  cases h : Utf8.encode template with
  | ok bytes => exact iff_of_true ⟨_, rfl⟩ (Utf8.encode_eq_ok_iff.mp h).1
  | error f =>
    refine iff_of_false (by simp [Except.map]) fun hs => ?_
    rw [Utf8.encode_eq_ok_iff.mpr ⟨hs, rfl⟩] at h
    cases h

/-- Where a valid template is asked for, a prompt is made of the valid ones that have bytes to take the
digest of. -/
theorem exists_build_eq_ok_iff :
    (∃ prompt, Prompt.build template s .error bare = .ok prompt) ↔
      (ofTemplate template s bare).isValid ∧ template.isScalar := by
  rw [← exists_hashOf_eq_ok_iff]
  by_cases hv : (ofTemplate template s bare).isValid = true
  · have hnone : (some (ofTemplate template s bare)).filter (fun v => !v.isValid) = none := by
      simpa [Option.filter] using hv
    cases hhash : Prompt.hashOf template <;> simp [Prompt.build, hnone, hv, hhash]
  · have hsome : (some (ofTemplate template s bare)).filter (fun v => !v.isValid) =
        some (ofTemplate template s bare) := by simpa [Option.filter] using hv
    simp [Prompt.build, hsome, hv]

theorem not_namesNothing_of_isValid (h : (ofTemplate template s bare).isValid)
    {p : Occurrence × Resolution} (hp : p ∈ Template.resolutions template s bare) :
    ¬ p.1.token.NamesNothing s := by
  intro hno
  obtain ⟨d, hd⟩ := Option.isSome_iff_exists.mp (Diagnostic.isSome_ofToken?_iff.mpr hno)
  have hmem : d ∈ (ofTemplate template s bare).errors.filter (·.token.isSome) := by
    rw [filter_token_errors]
    exact List.mem_filterMap.mpr ⟨p, hp, hd⟩
  have hnil : (ofTemplate template s bare).errors = [] := by simpa [isValid] using h
  simp [hnil] at hmem

theorem eq_ofToken_of_mem_resolutions {p : Occurrence × Resolution}
    (hp : p ∈ Template.resolutions template s bare) : p.2 = Resolution.ofToken s p.1.token := by
  obtain ⟨o, -, rfl⟩ := List.mem_map.mp hp
  rfl

/-- **Validation and resolution agree.** The diagnostics with a token are one to one those of the
occurrences with a missing value, sections that are there left out; any other missing value is that of
a section without fields; and a prompt that was made from a valid template shows no failed look-up. -/
theorem errors_eq_missing (template : Text) (s : Snapshot) (bare : Bool) :
    let all := Template.resolutions template s bare
    List.Forall₂ (fun d p => Diagnostic.ofToken? s p.1.token = some d ∧ d.token = some p.1.token.raw)
        ((ofTemplate template s bare).errors.filter (·.token.isSome))
        (all.filter fun p => p.2.status = .missing ∧ ¬ p.1.token.NamesSection s) ∧
      (∀ p ∈ all, p.2.status = .missing → p.1.token.NamesSection s →
        ∃ sec, s.section? p.1.token.key = some sec ∧ s.fieldsIn sec.id = []) ∧
      ∀ prompt, Prompt.build template s .error bare = .ok prompt → ∀ p ∈ all,
        (p.1.token.kind = .field → (s.field? p.1.token.key).isSome) ∧
        (p.1.token.kind = .sectionFields ∨ p.1.token.kind = .sectionNotes →
          (s.section? p.1.token.key).isSome) ∧
        ∀ subject, p.2 ≠ Resolution.missing "Field not found" subject ∧
          p.2 ≠ Resolution.missing "Section not found" subject := by
  intro all
  refine ⟨?_, fun p hp hm hsec => ?_, fun prompt hb p hp => ?_⟩
  · rw [filter_token_errors]
    have hkeep : all.filter (fun p => p.2.status = .missing ∧ ¬ p.1.token.NamesSection s) =
        all.filter fun p => (Diagnostic.ofToken? s p.1.token).isSome := by
      refine List.filter_congr fun p hp => ?_
      rw [eq_ofToken_of_mem_resolutions hp, Bool.eq_iff_iff, decide_eq_true_iff,
        ← namesNothing_iff_missing, Diagnostic.isSome_ofToken?_iff]
    rw [hkeep]
    exact (forall₂_filterMap _ (fun _ => rfl) all).imp fun d p h =>
      ⟨h, Diagnostic.token_of_ofToken?_eq_some h⟩
  · rw [eq_ofToken_of_mem_resolutions hp, Resolution.status_ofToken_eq_missing_iff] at hm
    rcases hm with hno | ⟨-, h⟩
    · exact absurd hsec (namesNothing_iff_missing.mp hno).2
    · exact h
  · have hno := not_namesNothing_of_isValid (exists_build_eq_ok_iff.mp ⟨prompt, hb⟩).1 hp
    refine ⟨fun hkind => ?_, fun hkind => ?_, fun subject => ?_⟩
    · simpa [Token.NamesNothing, hkind, Option.isSome_iff_ne_none] using hno
    · rcases hkind with hkind | hkind <;>
        simpa [Token.NamesNothing, hkind, Option.isSome_iff_ne_none] using hno
    · rw [eq_ofToken_of_mem_resolutions hp]
      exact Resolution.ofToken_ne_notFound hno subject

/-- A section without fields is no fault, although its value is missing. -/
theorem errors_eq_missing_emptySection :
    let s : Snapshot := { sections := [⟨"x", "X", "x"⟩] }
    let t : Text := TokenKind.sectionFields.token "x" ++ TokenKind.sectionNotes.token "x"
    (∃ prompt, Prompt.build t s .error true = .ok prompt) ∧
      (Template.resolutions t s true).map (·.2.status) = [.missing, .empty] ∧
      ∀ p ∈ Template.resolutions t s true, ∀ subject,
        p.2 ≠ Resolution.missing "Field not found" subject ∧
          p.2 ≠ Resolution.missing "Section not found" subject := by
  intro s t
  obtain ⟨prompt, hb⟩ : ∃ prompt, Prompt.build t s .error true = .ok prompt :=
    exists_build_eq_ok_iff.mpr ⟨by decide, by decide⟩
  exact ⟨⟨prompt, hb⟩, by decide, fun p hp => ((errors_eq_missing t s true).2.2 prompt hb p hp).2.2⟩

end Validation

end PromptTemplate
