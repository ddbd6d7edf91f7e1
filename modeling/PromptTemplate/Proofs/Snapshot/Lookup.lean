import PromptTemplate.Proofs.Table
import PromptTemplate.Snapshot.Basic

/-!
# The look-up tables of a snapshot

The tables are filled in one pass over each list of the snapshot, whose keys and ids may repeat. Fields, sections
and notes are listed by key, the first entry of each; the fields are listed by section too, and there every
field stands in one group, also where no section has the id (`lookups_exact`).
-/

namespace PromptTemplate.Snapshot

open Text Table

/-- **The look-up tables are exact.** Each key or id has its first entry, in the order in which they are first
seen. The group of a section id is the fields with this id in their order, and the groups together are all
fields, so their sizes add up. -/
theorem lookups_exact (s : Snapshot) :
    ListsFirst Field.key s.fields s.fieldByKey ∧
    ListsFirst Section.id s.sections s.sectionById ∧
    ListsFirst Note.sectionId s.notes s.noteBySection ∧
    FirstSeen (s.fields.map Field.sectionId) s.fieldsBySection.keys ∧
    (∀ id, (s.fieldsBySection.get? id).getD [] = s.fields.filter fun f => f.sectionId = id) ∧
    (∀ f ∈ s.fields, ∃! g, g ∈ s.fieldsBySection ∧ f ∈ g.2) ∧
    (s.fieldsBySection.flatMap Prod.snd).Perm s.fields ∧
    (s.fieldsBySection.keys.map fun id => ((s.fieldsBySection.get? id).getD []).length).sum =
      s.fields.length := by
  refine ⟨listsFirst_firstByKey _ _, listsFirst_firstByKey _ _, listsFirst_firstByKey _ _,
    firstSeen_groupByKey _ _, s.get?_fieldsBySection, fun f hf => existsUnique_group _ hf,
    flatMap_groupByKey_perm _ _, ?_⟩
  simp only [get?_fieldsBySection]
  exact sum_length_groupByKey Field.sectionId s.fields

/-- A repeated key, and a field of a section that is not there. -/
example :
    let f : Field := { key := "k", label := "1", sectionId := "a" }
    let g : Field := { key := "l", label := "2", sectionId := "b" }
    let s : Snapshot := { fields := [f, g, { f with label := "3" }], sections := [⟨"a", "A", "a"⟩] }
    s.fieldByKey = [(f.key, f), (g.key, g)] ∧
      s.fieldsBySection = [(f.sectionId, [f, { f with label := "3" }]), (g.sectionId, [g])] := by
  decide

end PromptTemplate.Snapshot
