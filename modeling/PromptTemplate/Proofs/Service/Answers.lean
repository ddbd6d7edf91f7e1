import PromptTemplate.Proofs.Json.Sendable
import PromptTemplate.Proofs.Prompt
import PromptTemplate.Proofs.Resolution.WholeSnapshot
import PromptTemplate.Proofs.Snapshot.Reader
import PromptTemplate.Proofs.Template.Canonical
import PromptTemplate.Proofs.Validation.Suggestion
import PromptTemplate.Service.Reply

/-!
# Answers that can be sent

Where a snapshot and a template hold no lone surrogates, nothing that is said of them holds one: neither
diagnostics (`Validation.isSendable_toData`) nor values (`Resolution.isScalar_ofToken`), resolved templates
(`Template.isSendable_resolveWithTokens`), prompts (`Prompt.isSendable_toData`) or catalogs
(`Catalog.isSendable_toData`). The only integers of an answer are lengths.
-/

namespace PromptTemplate

open Text Json

variable {s : Snapshot} {bare : Bool} {k : Token}

/-! ### Look-ups -/

namespace Snapshot

theorem IsScalar.field? (hs : s.IsScalar) {key : Text} {f : Field} (h : s.field? key = some f) : f.IsScalar :=
  hs.fields f (List.mem_of_find?_eq_some h)

theorem IsScalar.section? (hs : s.IsScalar) {id : Text} {sec : Section} (h : s.section? id = some sec) :
    sec.IsScalar :=
  hs.sections sec (List.mem_of_find?_eq_some h)

theorem IsScalar.isScalar_of_field? (hs : s.IsScalar) {key : Text} {f : Field} (h : s.field? key = some f) :
    key.isScalar = true := by
  obtain rfl : f.key = key := by simpa using List.find?_some h
  exact (hs.field? h).key

theorem IsScalar.isScalar_of_section? (hs : s.IsScalar) {id : Text} {sec : Section}
    (h : s.section? id = some sec) : id.isScalar = true :=
  id_of_section?_eq_some h ▸ (hs.section? h).id

end Snapshot

/-! ### Diagnostics -/

namespace SyntaxCheck

theorem isScalar_of_mem_emptyShapes {t u : Text} (h : u ∈ emptyShapes t) : u.isScalar = true := by
  rw [emptyShapes, List.mem_eraseDups, List.mem_append] at h
  rcases h with h | h
  · have hanch := anchored_of_isKeyless (fun _ => IsEmptyKeyword.isKeyless) fun _ _ => emptyKeyword?_eq_some_iff
    obtain ⟨v, hv⟩ := exists_of_mem_hits hanch h
    exact (emptyKeyword?_eq_some_iff.mp hv).1.isScalar
  · have hanch := anchored_of_isKeyless (fun _ => IsEmptyBraces.isKeyless) fun _ _ => emptyBraces?_eq_some_iff
    obtain ⟨v, hv⟩ := exists_of_mem_hits hanch h
    exact (emptyBraces?_eq_some_iff.mp hv).1.isScalar

theorem isScalar_message {t : Text} {f : SyntaxFault} (h : f ∈ faults t) : f.message.isScalar = true := by
  rw [faults, List.mem_append] at h
  rcases h with h | h
  · split_ifs at h
    · cases h
    · obtain rfl := List.mem_singleton.mp h
      decide
  · obtain ⟨u, hu, rfl⟩ := List.mem_map.mp h
    simp [SyntaxFault.message, isScalar_of_mem_emptyShapes hu]

end SyntaxCheck

/-- A diagnostic none of whose texts has a lone surrogate. -/
structure Diagnostic.IsScalar (d : Diagnostic) : Prop where
  token : ∀ t ∈ d.token, t.isScalar = true
  message : d.message.isScalar = true
  suggestions : ∀ ts ∈ d.suggestions, ∀ t ∈ ts, t.isScalar = true

namespace Diagnostic

variable {d : Diagnostic}

theorem isScalar_ofToken? (hs : s.IsScalar) (hk : k.Spelled bare) (h : ofToken? s k = some d) :
    d.IsScalar := by
  refine ⟨fun t ht => ?_, ?_, fun ts hts t ht => ?_⟩
  · rw [token_of_ofToken?_eq_some h] at ht
    cases ht
    exact hk.isScalar_raw
  · unfold ofToken? at h
    split at h
    case h_4 | h_5 => cases h
    all_goals
      split at h
      · cases h
      · cases h
        simp [notFound, hk.isScalar_key]
  · obtain ⟨key, rfl, hnamed⟩ := exists_of_mem_suggestions h hts ht
    refine TokenKind.isScalar_token _ ?_
    -- the key is that of a field or a section that is there
    have hnamed := hnamed []
    cases htype : d.type with
    | field =>
      rw [htype] at hnamed
      obtain ⟨f, hf⟩ := Option.ne_none_iff_exists'.mp hnamed
      exact hs.isScalar_of_field? hf
    | sectionFields | sectionNotes =>
      rw [htype] at hnamed
      obtain ⟨sec, hsec⟩ := Option.ne_none_iff_exists'.mp hnamed
      exact hs.isScalar_of_section? hsec

theorem isSendable_toData (hd : d.IsScalar) : IsSendable d.toData := by
  have hsuggestions : IsSendable ((d.suggestions.map Data.texts).getD .null) := by
    cases hts : d.suggestions with
    | none => exact .null
    | some ts => exact isSendable_texts_iff.mpr (hd.suggestions ts (by simp [hts]))
  have htype : d.type.name.isScalar = true := TokenKind.isScalar_name _
  simpa [toData, hsuggestions, hd.message, htype] using hd.token

end Diagnostic

namespace Validation

theorem isScalar_of_mem_errors (hs : s.IsScalar) {t : Text} {d : Diagnostic}
    (h : d ∈ (ofTemplate t s bare).errors) : d.IsScalar := by
  rw [errors_ofTemplate, List.mem_append, tokenErrors, filterMap_ofToken?_eq,
    Template.map_token_occurrences] at h
  rcases h with h | h
  · obtain ⟨f, hf, rfl⟩ := List.mem_map.mp h
    exact ⟨by simp [Diagnostic.ofSyntax], SyntaxCheck.isScalar_message hf, by simp [Diagnostic.ofSyntax]⟩
  · obtain ⟨k, hk, hd⟩ := List.mem_filterMap.mp h
    exact Diagnostic.isScalar_ofToken? hs (Template.spelled_of_mem_hits hk) hd

theorem isSendable_toData (hs : s.IsScalar) (t : Text) (bare : Bool) :
    IsSendable (ofTemplate t s bare).toData := by
  have herrors : ∀ d ∈ (ofTemplate t s bare).errors, IsSendable d.toData := fun d hd =>
    Diagnostic.isSendable_toData (isScalar_of_mem_errors hs hd)
  simpa [toData, members] using herrors

end Validation

/-! ### Values -/

namespace Field

variable {f : Field}

theorem isScalar_valueText (hf : f.IsScalar) : f.valueText.isScalar = true := by
  unfold valueText
  split
  · decide
  · rename_i v hv
    have hscalar := hf.value v hv
    split
    · decide
    · split
      · split
        · rename_i flag _
          cases flag <;> decide
        · decide
      · exact isScalar_joinWith (by decide) fun part hpart =>
          isScalar_of_subset hscalar (subset_of_mem_splitOn hpart)
      · exact hscalar

theorem isScalar_plainText {fields : List Field} (h : ∀ f ∈ fields, f.IsScalar) :
    (plainText fields).isScalar = true := by
  refine isScalar_joinWith (by decide) fun line hline => ?_
  obtain ⟨f, hf, rfl⟩ := List.mem_map.mp hline
  have hscalar := h f (List.mem_mergeSort.mp hf)
  simp [plainLine, hscalar.label, isScalar_valueText hscalar]

theorem isSendable_storedValue (hf : f.IsScalar) : IsSendable f.storedValue := by
  unfold storedValue
  split
  · unfold flagData
    split <;> simp
  · exact isSendable_ofText?_iff.mpr hf.value

end Field

namespace Resolution

theorem isScalar_placeholder (message : String) {subject : Text} (h : subject.isScalar = true) :
    (placeholder message subject).isScalar = true := by
  simp [placeholder, h]

/-- A payload whose entries have scalar keys and values that can be sent is written without surrogates. -/
theorem isScalar_write_foldl_set {entries : List (Text × Data)}
    (h : ∀ e ∈ entries, e.1.isScalar = true ∧ IsSendable e.2) :
    (Json.write .indented (.map (entries.foldl (fun t e => Table.set t e.1 e.2) []))).isScalar = true := by
  have hmem : ∀ e ∈ entries.foldl (fun t e => Table.set t e.1 e.2) [], e ∈ entries := fun e he =>
    (Table.mem_of_mem_foldl_set he).resolve_right List.not_mem_nil
  refine IsSendable.isScalar_write (by decide) (by decide) (.map (fun m hm => ?_) fun m hm => ?_)
  · exact (h m (hmem m hm)).1
  · exact (h m (hmem m hm)).2

/-- **The value of a token has no lone surrogate** if its key and the snapshot have none. -/
theorem isScalar_ofToken (hs : s.IsScalar) (hk : k.key.isScalar = true) :
    (ofToken s k).value.isScalar = true := by
  unfold ofToken
  split
  · unfold ofField
    split
    · exact isScalar_placeholder _ hk
    · rename_i f hf
      split
      · rfl
      · rename_i v hv
        split_ifs
        · rfl
        · split
          · rename_i flag _
            cases flag <;> decide
          · rfl
        · exact (hs.field? hf).value v hv
  · unfold ofSection
    split
    · exact isScalar_placeholder _ hk
    · rename_i sec hsec
      split
      · exact isScalar_placeholder _ (hs.section? hsec).title
      · exact Field.isScalar_plainText fun f hf => hs.fields f (List.mem_filter.mp hf).1
  · unfold ofNotes
    split
    · exact isScalar_placeholder _ hk
    · split
      · rename_i t ht
        obtain ⟨n, hn, hmarkdown⟩ := Option.bind_eq_some_iff.mp (Option.filter_eq_some_iff.mp ht).1
        exact (hs.notes n (List.mem_of_find?_eq_some hn)).markdown t hmarkdown
      · decide
  · rw [fieldsPayload, Field.payload_eq_foldl_set]
    refine isScalar_write_foldl_set fun e he => ?_
    obtain ⟨f, hf, rfl⟩ := List.mem_map.mp he
    exact ⟨(hs.fields f hf).key, Field.isSendable_storedValue (hs.fields f hf)⟩
  · rw [notesPayload_eq_foldl_set]
    refine isScalar_write_foldl_set fun e he => ?_
    obtain ⟨n, hn, hmember⟩ := List.mem_filterMap.mp he
    obtain ⟨sec, hsec, rfl⟩ := Option.map_eq_some_iff.mp hmember
    refine ⟨(hs.section? hsec).id, ?_⟩
    cases hmarkdown : n.markdown with
    | none => exact .text rfl
    | some t => exact .text ((hs.notes n hn).markdown t hmarkdown)

end Resolution

namespace Template

variable {t : Text}

theorem isScalar_resolve (hs : s.IsScalar) (ht : t.isScalar = true) (bare : Bool) :
    (resolve t s bare).isScalar = true := by
  obtain ⟨hlead, hrest⟩ := isScalar_of_cut (@Token.anchored_at? bare) (Escape.isScalar_protect ht)
  refine isScalar_render.mpr ⟨Escape.isScalar_unescape hlead, fun p hp => ?_⟩
  obtain ⟨q, hq, rfl⟩ := List.mem_map.mp hp
  have hspelled := spelled_of_mem_hits (List.mem_map_of_mem (f := Prod.fst) hq)
  exact ⟨Resolution.isScalar_ofToken hs hspelled.isScalar_key, Escape.isScalar_unescape (hrest q hq)⟩

/-- A resolved template none of whose texts has a lone surrogate. -/
theorem isScalar_resolveWithTokens (hs : s.IsScalar) (ht : t.isScalar = true) (bare : Bool) :
    let r := resolveWithTokens t s bare
    r.text.isScalar = true ∧ (∀ u ∈ r.emptyTokens, u.isScalar = true) ∧
      ∀ u ∈ r.missingTokens, u.isScalar = true := by
  exact ⟨isScalar_resolve hs ht bare, fun u hu => isScalar_of_mem_tokens (.inl hu),
    fun u hu => isScalar_of_mem_tokens (.inr hu)⟩

theorem isSendable_resolveWithTokens (hs : s.IsScalar) (ht : t.isScalar = true) (bare : Bool) :
    IsSendable (resolveWithTokens t s bare).toData := by
  obtain ⟨htext, hempty, hmissing⟩ := isScalar_resolveWithTokens hs ht bare
  simpa [Resolved.toData, htext] using ⟨hempty, hmissing⟩

end Template

/-! ### Prompts -/

namespace Prompt

variable {t : Text} {mode : ValidationMode}

/-- A template without lone surrogates gets a prompt, unless it is not valid and has to be. -/
theorem build_cases (ht : t.isScalar = true) (s : Snapshot) (mode : ValidationMode) (bare : Bool) :
    build t s mode bare = .error (.invalid (Validation.ofTemplate t s bare)) ∨
      ∃ bytes, build t s mode bare = .ok {
        text := (Template.resolveWithTokens t s bare).text
        templateHash := Digest.sha256 bytes
        mode
        validation := if mode = .off then none else some (Validation.ofTemplate t s bare)
        emptyTokens := (Template.resolveWithTokens t s bare).emptyTokens
        missingTokens := (Template.resolveWithTokens t s bare).missingTokens } := by
  have hhash : hashOf t = .ok (Digest.sha256 (t.flatMap Utf8.encodePoint)) := by
    rw [hashOf, Utf8.encode_eq_ok_iff.mpr ⟨ht, rfl⟩]
    rfl
  unfold build
  dsimp only
  split
  · rename_i v hv
    have hsome := (Option.filter_eq_some_iff.mp hv).1
    split_ifs at hsome
    obtain rfl := Option.some.inj hsome
    exact .inl rfl
  · rw [hhash]
    exact .inr ⟨_, rfl⟩

theorem isSendable_toData (hs : s.IsScalar) (ht : t.isScalar = true) {p : Prompt}
    (h : build t s mode bare = .ok p) : IsSendable p.toData := by
  obtain ⟨htext, hempty, hmissing⟩ := Template.isScalar_resolveWithTokens hs ht bare
  rcases build_cases ht s mode bare with hbuild | ⟨bytes, hbuild⟩
  · rw [hbuild] at h
    cases h
  · rw [hbuild] at h
    cases h
    have hmode : mode.name.isScalar = true := by cases mode <;> decide
    have hvalidation : IsSendable (((if mode = .off then none else
        some (Validation.ofTemplate t s bare)).map Validation.toData).getD .null) := by
      split
      · exact .null
      · exact Validation.isSendable_toData hs t bare
    simpa [toData, htext, hmode, hvalidation, Digest.isScalar_sha256] using ⟨hempty, hmissing⟩

end Prompt

/-! ### Catalogs -/

namespace Catalog

theorem isSendable_toData_iff {c : Catalog} :
    IsSendable c.toData ↔ (∀ e ∈ c.fields, IsSendable e.toData) ∧ (∀ e ∈ c.sections, IsSendable e.toData) ∧
      (∀ e ∈ c.notes, IsSendable e.toData) ∧ ∀ e ∈ c.whole, IsSendable e.toData := by
  simp [toData]

theorem isSendable_filter {c : Catalog} (h : IsSendable c.toData) (query : Text) :
    IsSendable (c.filter query).toData := by
  unfold filter
  dsimp only
  split
  · exact h
  · obtain ⟨hfields, hsections, hnotes, hwhole⟩ := isSendable_toData_iff.mp h
    exact isSendable_toData_iff.mpr ⟨fun e he => hfields e (List.mem_filter.mp he).1,
      fun e he => hsections e (List.mem_filter.mp he).1, fun e he => hnotes e (List.mem_filter.mp he).1,
      fun e he => hwhole e (List.mem_filter.mp he).1⟩

theorem isSendable_filter? {c : Catalog} (h : IsSendable c.toData) (query : Option Text) :
    IsSendable (c.filter? query).toData := by
  unfold filter?
  split
  · exact isSendable_filter h _
  · exact h

theorem isSendable_toData (hs : s.IsScalar) (hcount : s.fields.length < 10 ^ Numeral.maxDigits) :
    IsSendable (ofSnapshot s).toData := by
  refine isSendable_toData_iff.mpr ⟨fun e he => ?_, fun e he => ?_, fun e he => ?_, fun e he => ?_⟩
  · obtain ⟨f, hf, rfl⟩ := List.mem_map.mp he
    have hscalar := hs.fields f hf
    have htype : f.type.name.isScalar = true := by cases f.type <;> decide
    simpa [FieldEntry.toData, FieldEntry.ofField, htype, hscalar.label, hscalar.sectionId,
      hscalar.sectionTitle, hscalar.key, TokenKind.isScalar_token _ hscalar.key] using hscalar.value
  · obtain ⟨sec, hsec, rfl⟩ := List.mem_map.mp he
    have hscalar := hs.sections sec hsec
    have hlength : (s.fieldsIn sec.id).length < 10 ^ Numeral.maxDigits :=
      Nat.lt_of_le_of_lt (List.length_filter_le _ _) hcount
    simp [SectionEntry.toData, SectionEntry.ofSection, hscalar.id, hscalar.title,
      TokenKind.isScalar_token _ hscalar.id, hlength]
  · obtain ⟨sec, hsec, rfl⟩ := List.mem_map.mp he
    have hscalar := hs.sections sec hsec
    simp [NotesEntry.toData, NotesEntry.ofSection, hscalar.id, hscalar.title,
      TokenKind.isScalar_token _ hscalar.id]
  · simp only [ofSnapshot, List.mem_cons, List.not_mem_nil, or_false] at he
    rcases he with rfl | rfl <;>
      simp [WholeEntry.toData, TokenKind.isScalar_token _ isScalar_nil]

end Catalog

end PromptTemplate
