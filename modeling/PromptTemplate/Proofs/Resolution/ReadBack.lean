import PromptTemplate.Proofs.FieldText.Renderings
import PromptTemplate.Proofs.Table
import PromptTemplate.Snapshot.File

/-!
# Rendered JSON read back

The tokens for a whole snapshot and the JSON form of a section are objects whose members are set one after the
other. The reader of snapshot files takes their texts for just these objects (`jsonTexts_readBack`), whatever the
keys and values hold: each member once, in the order in which the keys are first seen, with the value set last.
-/

namespace PromptTemplate

open Text

namespace Json

/-- A text, a flag or nothing. -/
inductive IsPlain : Data → Prop
  | null : IsPlain .null
  | bool (b : Bool) : IsPlain (.bool b)
  | text (t : Text) : IsPlain (.text t)

/-- What is kept where no list and no object may stand is plain. -/
theorem IsKept.isPlain {d : Data} (h : IsKept 0 d) : IsPlain d := by
  cases h with
  | null => exact .null
  | bool b => exact .bool b
  | text t => exact .text t

/-- A text that the reader of snapshot files takes for an object with plain members, which the entries make when
they are set one after the other. -/
structure Shows (text : Text) (payload : Table Data) (entries : List (Text × Data)) : Prop where
  read : ∀ path, jsonData .snapshot path text = .ok (.map payload)
  members : Table.ListsLast entries payload
  plain : ∀ m ∈ payload, IsPlain m.2

/-- **Plain members come back**, whatever their keys. -/
theorem shows_foldl_set {entries : List (Text × Data)} (h : ∀ e ∈ entries, ∀ room, IsKept room e.2) :
    let payload := entries.foldl (fun t e => Table.set t e.1 e.2) []
    Shows (write .indented (.map payload)) payload entries := by
  intro payload
  refine ⟨fun path => ?_, Table.listsLast_foldl_set entries, fun m hm => ?_⟩
  · rw [jsonData, read_foldl_set Style.isRegular_indented h]
  · exact (h m ((Table.mem_of_mem_foldl_set hm).resolve_right List.not_mem_nil) 0).isPlain

end Json

namespace Resolution

theorem shows_payload {value : Field → Data} (hvalue : ∀ f room, Json.IsKept room (value f))
    (fields : List Field) :
    Json.Shows (Json.write .indented (.map (Field.payload value fields))) (Field.payload value fields)
      (fields.map fun f => (f.key, value f)) := by
  rw [Field.payload_eq_foldl_set]
  exact Json.shows_foldl_set (Field.isKept_members hvalue fields)

theorem shows_notesPayload (s : Snapshot) :
    Json.Shows (Json.write .indented (.map (notesPayload s))) (notesPayload s)
      (s.notes.filterMap (noteMember? s)) := by
  rw [notesPayload_eq_foldl_set]
  exact Json.shows_foldl_set (isKept_noteMembers s)

/-- **What is rendered as JSON is read back.** The text of all fields gives the stored value of each field, the
text of all notes the notes on each known section, and the text of a section the typed value of each of its
fields in their order. -/
theorem jsonTexts_readBack (s : Snapshot) (fields : List Field) (key raw : Text) :
    Json.Shows (ofToken s ⟨.allFields, key, raw⟩).value (fieldsPayload s)
      (s.fields.map fun f => (f.key, f.storedValue)) ∧
    Json.Shows (ofToken s ⟨.allNotes, key, raw⟩).value (notesPayload s) (s.notes.filterMap (noteMember? s)) ∧
    Json.Shows (Field.jsonText fields) (Field.payload Field.sectionValue (Field.inOrder fields))
      ((Field.inOrder fields).map fun f => (f.key, f.sectionValue)) :=
  ⟨shows_payload isKept_storedValue s.fields, shows_notesPayload s,
    shows_payload Field.isKept_sectionValue (Field.inOrder fields)⟩

end Resolution

end PromptTemplate
