import PromptTemplate.Proofs.Resolution.Reordering

/-!
# Snapshots that grow

A snapshot grows by further entries behind those it has, and these may repeat the keys and ids that are there.
As the first entry with a key counts, in every table alike, the tables of the snapshot grow by entries at their
end as well (`GrowsTo.fieldByKey_prefix`), and what was found once is found for good. So no token that names
something comes to name nothing, and a value made of a field or of a note stays what it was
(`grown_keeps_templates`). Only what is made of all the entries there are can change: the fields of a section,
the tokens for the whole snapshot, and the suggestions of a diagnostic.
-/

namespace PromptTemplate

/-! ### Growth -/

namespace Snapshot

/-- Each list of the second snapshot is that of the first and further entries. -/
structure GrowsTo (s s' : Snapshot) : Prop where
  fields : s.fields <+: s'.fields
  sections : s.sections <+: s'.sections
  notes : s.notes <+: s'.notes

variable {s s' : Snapshot} (h : s.GrowsTo s')
include h

theorem GrowsTo.fieldByKey_prefix : s.fieldByKey <+: s'.fieldByKey := Table.firstByKey_prefix _ h.fields

theorem GrowsTo.sectionById_prefix : s.sectionById <+: s'.sectionById := Table.firstByKey_prefix _ h.sections

theorem GrowsTo.noteBySection_prefix : s.noteBySection <+: s'.noteBySection := Table.firstByKey_prefix _ h.notes

theorem GrowsTo.field?_eq_some {key : Text} {f : Field} (hf : s.field? key = some f) :
    s'.field? key = some f := by
  rw [← get?_fieldByKey] at hf ⊢
  exact Table.get?_of_prefix h.fieldByKey_prefix hf

theorem GrowsTo.section?_eq_some {id : Text} {sec : Section} (hsec : s.section? id = some sec) :
    s'.section? id = some sec := by
  rw [← get?_sectionById] at hsec ⊢
  exact Table.get?_of_prefix h.sectionById_prefix hsec

theorem GrowsTo.note?_eq_some {id : Text} {n : Note} (hn : s.note? id = some n) : s'.note? id = some n := by
  rw [← get?_noteBySection] at hn ⊢
  exact Table.get?_of_prefix h.noteBySection_prefix hn

/-- What names nothing in the grown snapshot named nothing before. -/
theorem GrowsTo.namesNothing {k : Token} (hk : k.NamesNothing s') : k.NamesNothing s := by
  obtain ⟨kind, key, raw⟩ := k
  cases kind with
  | field =>
    cases hf : s.field? key with
    | none => exact hf
    | some f => exact absurd hk (by simp [Token.NamesNothing, h.field?_eq_some hf])
  | sectionFields | sectionNotes =>
    cases hsec : s.section? key with
    | none => exact hsec
    | some sec => exact absurd hk (by simp [Token.NamesNothing, h.section?_eq_some hsec])
  | allFields | allNotes => exact hk

end Snapshot

/-! ### What is reported -/

namespace Diagnostic

variable {s s' : Snapshot} {k : Token} {d d' : Diagnostic}

/-- Whatever the snapshot, the same is found wrong with a token that names nothing. -/
theorem finding_eq_of_ofToken?_eq_some (hd : ofToken? s k = some d) (hd' : ofToken? s' k = some d') :
    d.finding = d'.finding := by
  unfold ofToken? at hd hd'
  cases hkind : k.kind
  all_goals simp only [hkind] at hd hd'
  case allFields | allNotes => cases hd
  all_goals
    split at hd
    · cases hd
    · split at hd'
      · cases hd'
      · cases hd
        cases hd'
        rfl

/-- A token that is reported for the grown snapshot was reported before, with the same finding. -/
theorem finding_ofToken?_of_growsTo (h : s.GrowsTo s') (k : Token) :
    (ofToken? s' k).map finding = none ∨ (ofToken? s' k).map finding = (ofToken? s k).map finding := by
  cases hd' : ofToken? s' k with
  | none => exact .inl rfl
  | some d' =>
    have hnothing : k.NamesNothing s := h.namesNothing (isSome_ofToken?_iff.mp (by rw [hd']; rfl))
    obtain ⟨d, hd⟩ := Option.isSome_iff_exists.mp (isSome_ofToken?_iff.mpr hnothing)
    rw [hd, Option.map_some, Option.map_some, finding_eq_of_ofToken?_eq_some hd hd']
    exact .inr rfl

end Diagnostic

namespace Validation

/-- The occurrences in a template that a diagnostic is given for. -/
def reported (t : Text) (s : Snapshot) (bare : Bool) : List Occurrence :=
  (Template.occurrences bare (Escape.protect t)).filter fun o => (Diagnostic.ofToken? s o.token).isSome

/-- The diagnostics of tokens stand for the reported occurrences, one for each and in their order. -/
theorem forall₂_reported (t : Text) (s : Snapshot) (bare : Bool) :
    List.Forall₂ (fun d o => Diagnostic.ofToken? s o.token = some d)
      ((ofTemplate t s bare).errors.filter (·.token.isSome)) (reported t s bare) := by
  rw [filter_token_errors, Template.resolutions, List.filterMap_map]
  exact forall₂_filterMap (fun o : Occurrence => Diagnostic.ofToken? s o.token) (fun _ => rfl) _

/-- Less found item by item is a part of what is found. -/
theorem filterMap_sublist_filterMap {α β : Type} {f g : α → Option β} (hfg : ∀ a, f a = none ∨ f a = g a)
    (as : List α) : (as.filterMap f).Sublist (as.filterMap g) := by
  induction as with
  | nil => exact List.Sublist.slnil
  | cons a as ih =>
    rcases hfg a with hnone | heq
    · rw [List.filterMap_cons_none hnone]
      exact ih.trans ((List.sublist_cons_self a as).filterMap g)
    · cases hg : g a with
      | none => rwa [List.filterMap_cons_none (heq.trans hg), List.filterMap_cons_none hg]
      | some b =>
        rw [List.filterMap_cons_some (heq.trans hg), List.filterMap_cons_some hg]
        exact ih.cons_cons b

section Grown

variable {s s' : Snapshot} (h : s.GrowsTo s') (t : Text) (bare : Bool)
include h

theorem reported_sublist : (reported t s' bare).Sublist (reported t s bare) := by
  refine List.monotone_filter_right _ fun o ho => ?_
  rw [Diagnostic.isSome_ofToken?_iff] at ho ⊢
  exact h.namesNothing ho

theorem map_finding_errors_sublist :
    ((ofTemplate t s' bare).errors.map Diagnostic.finding).Sublist
      ((ofTemplate t s bare).errors.map Diagnostic.finding) := by
  unfold ofTemplate
  dsimp only
  rw [List.map_append, List.map_append, List.map_filterMap, List.map_filterMap]
  refine (List.Sublist.refl _).append (filterMap_sublist_filterMap (fun o => ?_) _)
  exact Diagnostic.finding_ofToken?_of_growsTo h o.token

theorem isValid_of_growsTo (hvalid : (ofTemplate t s bare).isValid = true) :
    (ofTemplate t s' bare).isValid = true := by
  have hsub := map_finding_errors_sublist h t bare
  rw [isValid, List.isEmpty_iff] at hvalid ⊢
  rw [hvalid, List.map_nil, List.sublist_nil, List.map_eq_nil_iff] at hsub
  exact hsub

end Grown

end Validation

/-! ### What tokens resolve to -/

namespace Snapshot

section Grown

variable {s s' : Snapshot} (h : s.GrowsTo s') {k : Token}
include h

theorem GrowsTo.ofToken_field (hkind : k.kind = .field) (hfield : (s.field? k.key).isSome) :
    Resolution.ofToken s' k = Resolution.ofToken s k := by
  obtain ⟨f, hf⟩ := Option.isSome_iff_exists.mp hfield
  rw [Resolution.ofToken, Resolution.ofToken, hkind]
  exact Resolution.ofField_congr (by rw [hf, h.field?_eq_some hf])

theorem GrowsTo.ofToken_notes (hkind : k.kind = .sectionNotes) (hsection : (s.section? k.key).isSome)
    (hnote : (s.note? k.key).isSome) : Resolution.ofToken s' k = Resolution.ofToken s k := by
  obtain ⟨sec, hsec⟩ := Option.isSome_iff_exists.mp hsection
  obtain ⟨n, hn⟩ := Option.isSome_iff_exists.mp hnote
  have hid : sec.id = k.key := by simpa using List.find?_some hsec
  rw [Resolution.ofToken, Resolution.ofToken, hkind]
  refine Resolution.ofNotes_congr ?_
  rw [hsec, h.section?_eq_some hsec, Option.map_some, Option.map_some, hid, hn, h.note?_eq_some hn]

end Grown

/-- **Growth breaks no template.** Entries behind those of a snapshot, with keys and ids that are there or with
others, take occurrences off what is reported and add none, so a valid template stays valid; and the tokens of
fields that were there, and those of notes that were there on a section that was there, keep their values. -/
theorem grown_keeps_templates {s s' : Snapshot} (h : s.GrowsTo s') (t : Text) (bare : Bool) :
    (Validation.reported t s' bare).Sublist (Validation.reported t s bare) ∧
      ((Validation.ofTemplate t s' bare).errors.map Diagnostic.finding).Sublist
        ((Validation.ofTemplate t s bare).errors.map Diagnostic.finding) ∧
      ((Validation.ofTemplate t s bare).isValid = true → (Validation.ofTemplate t s' bare).isValid = true) ∧
      (∀ k : Token, k.kind = .field → (s.field? k.key).isSome →
        Resolution.ofToken s' k = Resolution.ofToken s k) ∧
      ∀ k : Token, k.kind = .sectionNotes → (s.section? k.key).isSome → (s.note? k.key).isSome →
        Resolution.ofToken s' k = Resolution.ofToken s k :=
  ⟨Validation.reported_sublist h t bare, Validation.map_finding_errors_sublist h t bare,
    Validation.isValid_of_growsTo h t bare, fun _ => h.ofToken_field, fun _ => h.ofToken_notes⟩

/-- Each entry that comes repeats a key or an id of one that is there, but for a new section. -/
theorem grown_keeps_templates_repeated :
    let f : Field := { key := "a", label := "A", value := some "1", sectionId := "x" }
    let s : Snapshot := { fields := [f], sections := [⟨"x", "X", "x"⟩], notes := [⟨"x", some "n"⟩] }
    let s' : Snapshot := {
      fields := [f, { f with value := some "2" }]
      sections := [⟨"x", "X", "x"⟩, ⟨"x", "Z", "z"⟩, ⟨"y", "Y", "y"⟩]
      notes := [⟨"x", some "n"⟩, ⟨"x", some "m"⟩] }
    let t : Text := "{{a}}{{notes:x}}{{notes:y}}{{b}}"
    s.GrowsTo s' ∧ (Validation.reported t s true).map (·.token.key) = ["y", "b"] ∧
      (Validation.reported t s' true).map (·.token.key) = ["b"] ∧
      (Validation.reported t s' true).Sublist (Validation.reported t s true) ∧
      Resolution.ofToken s' ⟨.field, "a", "{{a}}"⟩ = ⟨"1", .resolved⟩ ∧
      Resolution.ofToken s' ⟨.sectionNotes, "x", "{{notes:x}}"⟩ = ⟨"n", .resolved⟩ := by
  intro f s s' t
  have h : s.GrowsTo s' := ⟨by decide, by decide, by decide⟩
  obtain ⟨hreported, -, -, hfield, hnotes⟩ := grown_keeps_templates h t true
  exact ⟨h, by decide +kernel, by decide +kernel, hreported, (hfield _ rfl rfl).trans (by decide +kernel),
    (hnotes _ rfl rfl rfl).trans (by decide +kernel)⟩

end Snapshot

end PromptTemplate
