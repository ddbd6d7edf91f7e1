import PromptTemplate.Proofs.FieldText.Blocks
import PromptTemplate.Proofs.Resolution.Dependence
import PromptTemplate.Proofs.Validation.Agreement

/-!
# Snapshots in another order

A snapshot lists its fields, sections and notes in an order, and where keys, ids or places repeat this order
decides what counts. Where none repeats (`Snapshot.HasNoTies`) it decides nothing: every look-up finds the one
entry with its key (`Table.find?_eq_of_perm`), and the fields of a section are shown in the order of their
places (`Field.inOrder_eq_of_perm`). So the same entries in another order resolve a template with keyed tokens
to the same text, and what is reported differs in the suggestions at most (`reordered_gives_same`).
-/

namespace PromptTemplate

open Text

/-- Fields at distinct places have one order. -/
theorem Field.inOrder_eq_of_perm {fs gs : List Field} (hperm : fs.Perm gs)
    (h : (fs.map Field.orderIndex).Nodup) : inOrder fs = inOrder gs := by
  have hfs := isStableSort_inOrder fs
  have hgs := isStableSort_inOrder gs
  refine List.Perm.eq_of_pairwise (fun f g hf hg hle hge => ?_) hfs.ascending hgs.ascending
    (hfs.perm.trans (hperm.trans hgs.perm.symm))
  exact List.inj_on_of_nodup_map h (hfs.perm.mem_iff.mp hf) (hperm.mem_iff.mpr (hgs.perm.mem_iff.mp hg))
    (le_antisymm hle hge)

/-! ### Reordered snapshots -/

namespace Snapshot

/-- The same entries, in each of the three lists in any order. -/
structure Perm (s s' : Snapshot) : Prop where
  fields : s.fields.Perm s'.fields
  sections : s.sections.Perm s'.sections
  notes : s.notes.Perm s'.notes

/-- No key of a field, no id of a section and no section of a note repeats, and no two fields of a section are
at one place in it. -/
structure HasNoTies (s : Snapshot) : Prop where
  fields : (s.fields.map Field.key).Nodup
  sections : (s.sections.map Section.id).Nodup
  notes : (s.notes.map Note.sectionId).Nodup
  places : ∀ sec ∈ s.sections, ((s.fieldsIn sec.id).map Field.orderIndex).Nodup

variable {s s' : Snapshot}

theorem Perm.fieldsIn (h : s.Perm s') (id : Text) : (s.fieldsIn id).Perm (s'.fieldsIn id) :=
  h.fields.filter _

section Reordered

variable (h : s.Perm s') (hs : s.HasNoTies)
include h hs

theorem HasNoTies.field?_eq (key : Text) : s.field? key = s'.field? key :=
  Table.find?_eq_of_perm h.fields hs.fields key

theorem HasNoTies.section?_eq (id : Text) : s.section? id = s'.section? id :=
  Table.find?_eq_of_perm h.sections hs.sections id

theorem HasNoTies.note?_eq (id : Text) : s.note? id = s'.note? id :=
  Table.find?_eq_of_perm h.notes hs.notes id

theorem HasNoTies.ofToken_eq {k : Token} (hkind : k.kind ≠ .allFields ∧ k.kind ≠ .allNotes) :
    Resolution.ofToken s k = Resolution.ofToken s' k := by
  obtain ⟨kind, key, raw⟩ := k
  unfold Resolution.ofToken
  cases kind with
  | field => exact Resolution.ofField_congr (by rw [hs.field?_eq h])
  | sectionFields =>
    refine Resolution.ofSection_congr ?_
    rw [← hs.section?_eq h]
    refine Option.map_congr fun sec hsec => ?_
    rw [Field.inOrder_eq_of_perm (h.fieldsIn sec.id) (hs.places sec (List.mem_of_find?_eq_some hsec))]
  | sectionNotes =>
    refine Resolution.ofNotes_congr ?_
    rw [← hs.section?_eq h]
    simp only [hs.note?_eq h]
  | allFields => exact absurd rfl hkind.1
  | allNotes => exact absurd rfl hkind.2

end Reordered

end Snapshot

/-! ### What is reported -/

namespace Diagnostic

/-- A diagnostic without the tokens that are suggested. -/
def finding (d : Diagnostic) : Diagnostic := { d with suggestions := none }

/-- What is found wrong with a token rests on whether its field or its section is there. -/
theorem finding_ofToken?_congr {s s' : Snapshot} {k : Token}
    (hfield : (s.field? k.key).isSome = (s'.field? k.key).isSome)
    (hsection : (s.section? k.key).isSome = (s'.section? k.key).isSome) :
    (ofToken? s k).map finding = (ofToken? s' k).map finding := by
  unfold ofToken?
  rw [hfield, hsection]
  split
  case h_4 | h_5 => rfl
  all_goals
    split
    · rfl
    · rfl

end Diagnostic

namespace Validation

theorem map_finding_errors_congr {s s' : Snapshot} {t : Text} {bare : Bool}
    (h : ∀ k : Token, (Diagnostic.ofToken? s k).map Diagnostic.finding =
      (Diagnostic.ofToken? s' k).map Diagnostic.finding) :
    (ofTemplate t s bare).errors.map Diagnostic.finding =
      (ofTemplate t s' bare).errors.map Diagnostic.finding := by
  unfold ofTemplate
  dsimp only
  rw [List.map_append, List.map_append, List.map_filterMap, List.map_filterMap]
  have htokens : (fun o : Occurrence => (Diagnostic.ofToken? s o.token).map Diagnostic.finding) =
      fun o => (Diagnostic.ofToken? s' o.token).map Diagnostic.finding :=
    funext fun o => h o.token
  rw [htokens]

end Validation

namespace Snapshot

/-- **The order of a snapshot does not show** where nothing ties. The same entries in another order resolve a
template with keyed tokens to the same text, with the same empty and missing tokens, and give the same errors
but for the suggestions. -/
theorem reordered_gives_same {s s' : Snapshot} (h : s.Perm s') (hs : s.HasNoTies) (t : Text) (bare : Bool) :
    (Template.IsKeyed t bare →
      Template.resolveWithTokens t s bare = Template.resolveWithTokens t s' bare) ∧
    (Validation.ofTemplate t s bare).errors.map Diagnostic.finding =
      (Validation.ofTemplate t s' bare).errors.map Diagnostic.finding := by
  constructor
  · intro hkeyed
    apply Template.resolveWithTokens_congr
    intro o ho
    exact hs.ofToken_eq h (hkeyed o ho)
  · apply Validation.map_finding_errors_congr
    intro k
    apply Diagnostic.finding_ofToken?_congr
    · rw [hs.field?_eq h]
    · rw [hs.section?_eq h]

/-- Two fields of a section change places, and so do two sections and two notes. -/
theorem reordered_gives_same_reversed :
    let f : Field := { key := "a", label := "A", value := some "1", sectionId := "x", orderIndex := 2 }
    let g : Field := { key := "b", label := "B", sectionId := "x", orderIndex := 1 }
    let s : Snapshot := {
      fields := [f, g]
      sections := [⟨"x", "X", "x"⟩, ⟨"y", "Y", "y"⟩]
      notes := [⟨"x", some "n"⟩, ⟨"y", none⟩] }
    let s' : Snapshot := ⟨s.fields.reverse, s.sections.reverse, s.notes.reverse⟩
    let t : Text := "{{section:x}} {{notes:x}} {{c}}"
    s.Perm s' ∧ s.HasNoTies ∧ Template.IsKeyed t true ∧
      s.fieldsIn "x" = [f, g] ∧ Resolution.ofSection s' "x" = ⟨"B: (empty)\nA: 1", .resolved⟩ ∧
      Template.resolveWithTokens t s true = Template.resolveWithTokens t s' true ∧
      (Validation.ofTemplate t s true).errors.map Diagnostic.finding =
        (Validation.ofTemplate t s' true).errors.map Diagnostic.finding := by
  intro f g s s' t
  have hperm : s.Perm s' :=
    ⟨(List.reverse_perm _).symm, (List.reverse_perm _).symm, (List.reverse_perm _).symm⟩
  have hties : s.HasNoTies := ⟨by decide, by decide, by decide, by decide⟩
  have hkeyed : Template.IsKeyed t true := by decide
  obtain ⟨hresolved, herrors⟩ := reordered_gives_same hperm hties t true
  have hshown : Resolution.ofSection s' "x" = ⟨Field.plainText [g, f], .resolved⟩ := rfl
  have horder : Field.inOrder [g, f] = [g, f] := List.mergeSort_of_pairwise (by decide)
  refine ⟨hperm, hties, hkeyed, rfl, ?_, hresolved hkeyed, herrors⟩
  rw [hshown, Field.plainText, horder]
  decide

end Snapshot

end PromptTemplate
