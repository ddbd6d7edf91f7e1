import PromptTemplate.Catalog
import PromptTemplate.Proofs.Resolution.WholeSnapshot

/-!
# What the catalog says of its tokens

The flag of a section says whether its token lists fields, and it does so for every section, repeated or
not. The flag of the notes asks only whether the note holds a text, where the token asks for more than blank
space: the flag is set wherever the token gives the notes, and it is wrong just where the note of the section
is a text of blanks (`flags_tell_status`).
-/

namespace PromptTemplate

namespace Text

theorem strip_eq_nil_iff {t : Text} : t.strip = [] ↔ ∀ c ∈ t, c.isBlank := by
  have hleft : t.dropWhile CodePoint.isBlank = [] ↔ ∀ c ∈ t, c.isBlank := List.dropWhile_eq_nil_iff
  rw [strip, trimBy, List.reverse_eq_nil_iff, List.dropWhile_eq_nil_iff, ← hleft]
  constructor
  · intro h
    by_contra hne
    -- what is left begins with a code point that is no blank
    have hhead := h _ (List.mem_reverse.mpr (List.head_mem hne))
    exact absurd hhead (by simp [List.head_dropWhile_not CodePoint.isBlank])
  · intro h c hc
    simp [h] at hc

end Text

namespace Snapshot

/-- The note on a section is a text of nothing but blanks, and of one at least. -/
def HasBlankNote (s : Snapshot) (id : Text) : Prop :=
  ∃ t, (s.note? id).bind Note.markdown = some t ∧ t ≠ [] ∧ ∀ c ∈ t, c.isBlank

theorem isSome_section?_of_mem {s : Snapshot} {sec : Section} (h : sec ∈ s.sections) :
    (s.section? sec.id).isSome :=
  List.find?_isSome.mpr ⟨sec, h, by simp⟩

end Snapshot

namespace Resolution

variable {s : Snapshot} {id : Text}

theorem status_ofSection (hsec : (s.section? id).isSome) :
    (ofSection s id).status = .resolved ↔ s.fieldsIn id ≠ [] := by
  obtain ⟨sec, hsome⟩ := Option.isSome_iff_exists.mp hsec
  rw [ofSection, hsome]
  simp only [Snapshot.id_of_section?_eq_some hsome]
  cases s.fieldsIn id with
  | nil => simp [missing]
  | cons f fields => simp

theorem ofNotes_eq (hsec : (s.section? id).isSome) :
    ofNotes s id = ((notesText? s id).map fun t => ⟨t, .resolved⟩).getD ⟨noNotes, .empty⟩ := by
  obtain ⟨sec, hsome⟩ := Option.isSome_iff_exists.mp hsec
  rw [ofNotes, hsome]
  simp only [Snapshot.id_of_section?_eq_some hsome]
  cases notesText? s id <;> rfl

theorem status_ofNotes (hsec : (s.section? id).isSome) :
    (ofNotes s id).status = .resolved ↔ (notesText? s id).isSome := by
  rw [ofNotes_eq hsec]
  cases notesText? s id <;> simp

theorem notesText?_eq_none_of_hasBlankNote (h : s.HasBlankNote id) : notesText? s id = none := by
  obtain ⟨t, ht, -, hblank⟩ := h
  rw [notesText?, ht, Option.filter_some, Text.strip_eq_nil_iff.mpr hblank]
  rfl

end Resolution

namespace Catalog

variable {s : Snapshot}

theorem hasFields_iff (sec : Section) :
    (SectionEntry.ofSection s sec).hasFields = true ↔ s.fieldsIn sec.id ≠ [] := by
  simp [SectionEntry.ofSection, List.length_pos_iff]

theorem hasContent_iff (sec : Section) :
    (NotesEntry.ofSection s sec).hasContent = true ↔
      (Resolution.notesText? s sec.id).isSome ∨ s.HasBlankNote sec.id := by
  unfold NotesEntry.ofSection Resolution.notesText? Snapshot.HasBlankNote
  cases (s.note? sec.id).bind Note.markdown with
  | none => simp
  | some t =>
    by_cases hblank : t.strip = []
    · have hall := Text.strip_eq_nil_iff.mp hblank
      simpa [Option.filter, hblank] using fun _ => hall
    · have hne : t ≠ [] := fun h => hblank (by rw [h]; rfl)
      simp [Option.filter, hblank, hne]

/-- **What the flags tell.** The flag of a section is set just where its token lists fields. The flag of the
notes is set where their token gives them; it is right just where the note is not blank, and a token that
does not give notes says that there are none. -/
theorem flags_tell_status (s : Snapshot) (raw : Text) :
    (∀ e ∈ (ofSnapshot s).sections,
      (e.hasFields = true ↔
        (Resolution.ofToken s ⟨.sectionFields, e.sectionId, raw⟩).status = .resolved)) ∧
    ∀ e ∈ (ofSnapshot s).notes,
      let r := Resolution.ofToken s ⟨.sectionNotes, e.sectionId, raw⟩
      (r.status = .resolved → e.hasContent = true) ∧
        ((e.hasContent = true ↔ r.status = .resolved) ↔ ¬ s.HasBlankNote e.sectionId) ∧
        (r.status ≠ .resolved → r = ⟨Resolution.noNotes, .empty⟩) := by
  constructor
  · rintro e he
    obtain ⟨sec, hsec, rfl⟩ := List.mem_map.mp he
    exact (hasFields_iff sec).trans (Resolution.status_ofSection (Snapshot.isSome_section?_of_mem hsec)).symm
  · rintro e he r
    obtain ⟨sec, hsec, rfl⟩ := List.mem_map.mp he
    have hsome := Snapshot.isSome_section?_of_mem hsec
    have hstatus : r.status = .resolved ↔ (Resolution.notesText? s sec.id).isSome :=
      Resolution.status_ofNotes hsome
    have hflag := hasContent_iff (s := s) sec
    refine ⟨fun h => hflag.mpr (.inl (hstatus.mp h)), ?_, fun h => ?_⟩
    · rw [hflag, hstatus]
      refine ⟨fun h hblank => ?_, fun h => or_iff_left h⟩
      have hnone : Resolution.notesText? s sec.id = none :=
        Resolution.notesText?_eq_none_of_hasBlankNote hblank
      exact absurd (h.mp (.inr hblank)) (by simp [hnone])
    · have hnone : Resolution.notesText? s sec.id = none :=
        Option.not_isSome_iff_eq_none.mp (mt hstatus.mpr h)
      exact (Resolution.ofNotes_eq hsome).trans (by rw [hnone]; rfl)

/-- A section that stands twice, with fields, and the note that is read is of two blanks. -/
theorem flags_tell_status_blank :
    let sec : Section := { id := "a", title := "A", key := "a" }
    let s : Snapshot := {
      fields := [{ key := "f", label := "F", sectionId := "a" }]
      sections := [sec, { sec with title := "B" }]
      notes := [{ sectionId := "a", markdown := some " \n" }, { sectionId := "a", markdown := some "x" }] }
    s.HasBlankNote "a" ∧
      (∃ e ∈ (ofSnapshot s).sections, e.label = "B" ∧ e.hasFields = true ∧
        (Resolution.ofToken s ⟨.sectionFields, e.sectionId, e.token⟩).status = .resolved) ∧
      ∃ e ∈ (ofSnapshot s).notes, e.label = "B Notes" ∧ e.hasContent = true ∧
        Resolution.ofToken s ⟨.sectionNotes, e.sectionId, e.token⟩ = ⟨Resolution.noNotes, .empty⟩ := by
  intro sec s
  have hblank : s.HasBlankNote "a" := ⟨" \n", rfl, by decide, by decide⟩
  have hsec : SectionEntry.ofSection s { sec with title := "B" } ∈ (ofSnapshot s).sections :=
    List.mem_map_of_mem (by decide)
  have hnote : NotesEntry.ofSection s { sec with title := "B" } ∈ (ofSnapshot s).notes :=
    List.mem_map_of_mem (by decide)
  refine ⟨hblank, ⟨_, hsec, rfl, rfl, ((flags_tell_status s _).1 _ hsec).mp rfl⟩, _, hnote, rfl, rfl, ?_⟩
  obtain ⟨-, hright, hempty⟩ := (flags_tell_status s _).2 _ hnote
  exact hempty fun h => absurd hblank (hright.mp ⟨fun _ => h, fun _ => rfl⟩)

/-- The notes of one blank have content by their flag, and their token has none to give. -/
theorem hasContent_of_blank_note :
    let s : Snapshot := {
      sections := [{ id := "s", title := "S", key := "s" }]
      notes := [{ sectionId := "s", markdown := some " " }] }
    ¬ ∀ e ∈ (ofSnapshot s).notes,
      (e.hasContent = true ↔
        (Resolution.ofToken s ⟨.sectionNotes, e.sectionId, e.token⟩).status = .resolved) := by
  intro s h
  have hresolved := (h _ (List.mem_map_of_mem (List.mem_singleton.mpr rfl))).mp rfl
  exact absurd hresolved (by decide)

end Catalog

end PromptTemplate
