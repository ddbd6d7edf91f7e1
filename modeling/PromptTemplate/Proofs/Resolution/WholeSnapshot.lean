import PromptTemplate.Proofs.Json.Roundtrip
import PromptTemplate.Resolution

/-!
# Whole snapshots as JSON

The tokens for a whole snapshot hold an object each: the fields by key, and the notes on known sections by
section id. The members are set one after the other, so where a key or an id repeats the last entry
stands, although the tokens for one field or section read the first. The objects say what those tokens
say just where the first and the last entry agree (`wholeSnapshot_first_iff`).
-/

namespace PromptTemplate

open Text

/-! ### The last entry with a key -/

namespace Snapshot

/-- The last field with a key. -/
def lastField? (s : Snapshot) (key : Text) : Option Field :=
  (s.fields.filter fun f => f.key = key).getLast?

/-- The last note on a section. -/
def lastNote? (s : Snapshot) (sectionId : Text) : Option Note :=
  (s.notes.filter fun n => n.sectionId = sectionId).getLast?

theorem isSome_lastField?_iff (s : Snapshot) (key : Text) :
    (s.lastField? key).isSome ↔ (s.field? key).isSome := by
  simp [lastField?, field?]

theorem isSome_lastNote?_iff (s : Snapshot) (id : Text) :
    (s.lastNote? id).isSome ↔ (s.note? id).isSome := by
  simp [lastNote?, note?]

theorem id_of_section?_eq_some {s : Snapshot} {id : Text} {sec : Section} (h : s.section? id = some sec) :
    sec.id = id := by
  simpa using List.find?_some h

end Snapshot

/-! ### The members of the objects -/

namespace Field

theorem payload_eq_foldl_set (value : Field → Data) (fields : List Field) :
    payload value fields =
      (fields.map fun f => (f.key, value f)).foldl (fun t e => Table.set t e.1 e.2) [] := by
  rw [List.foldl_map]
  rfl

theorem get?_payload (value : Field → Data) (fields : List Field) (key : Text) :
    Table.get? (payload value fields) key =
      (fields.filter fun f => f.key = key).getLast?.map value := by
  rw [payload_eq_foldl_set, (Table.listsLast_foldl_set _).entry, List.filter_map, List.getLast?_map,
    Option.map_map]
  rfl

variable {value : Field → Data}

theorem isKept_members (hvalue : ∀ f room, Json.IsKept room (value f)) (fields : List Field) :
    ∀ e ∈ fields.map fun f => (f.key, value f), ∀ room, Json.IsKept room e.2 := by
  intro e he room
  obtain ⟨f, -, rfl⟩ := List.mem_map.mp he
  exact hvalue f room

/-- Fields with values that JSON keeps come back from an object. -/
theorem read_payload (hvalue : ∀ f room, Json.IsKept room (value f)) (fields : List Field) :
    Json.read (Json.write .indented (.map (payload value fields))) = .ok (.map (payload value fields)) := by
  rw [payload_eq_foldl_set]
  exact Json.read_foldl_set Json.Style.isRegular_indented (isKept_members hvalue fields)

end Field

namespace Resolution

variable {s : Snapshot}

/-- The member that a note makes, if its section is known. -/
def noteMember? (s : Snapshot) (n : Note) : Option (Text × Data) :=
  (s.section? n.sectionId).map fun sec => (sec.id, .text (n.markdown.getD []))

theorem notesPayload_eq_foldl_set (s : Snapshot) :
    notesPayload s = (s.notes.filterMap (noteMember? s)).foldl (fun t e => Table.set t e.1 e.2) [] := by
  rw [List.foldl_filterMap, notesPayload]
  congr 1
  funext t n
  unfold noteMember?
  cases s.section? n.sectionId <;> rfl

theorem isKept_noteMembers (s : Snapshot) :
    ∀ e ∈ s.notes.filterMap (noteMember? s), ∀ room, Json.IsKept room e.2 := by
  intro e he room
  obtain ⟨n, -, hn⟩ := List.mem_filterMap.mp he
  obtain ⟨sec, -, rfl⟩ := Option.map_eq_some_iff.mp hn
  exact .text _

theorem filter_filterMap_noteMember? (s : Snapshot) (id : Text) (notes : List Note) :
    (notes.filterMap (noteMember? s)).filter (fun e => e.1 = id) =
      if (s.section? id).isSome then
        (notes.filter fun n => n.sectionId = id).map fun n => (id, .text (n.markdown.getD []))
      else [] := by
  induction notes with
  | nil => simp
  | cons n notes ih =>
    cases hsec : s.section? n.sectionId with
    | none =>
      have hmem : noteMember? s n = none := by rw [noteMember?, hsec, Option.map_none]
      rw [List.filterMap_cons_none hmem, ih]
      by_cases hid : n.sectionId = id
      · rw [← hid, hsec]
        rfl
      · rw [List.filter_cons_of_neg (by simpa using hid)]
    | some sec =>
      have hmem : noteMember? s n = some (n.sectionId, .text (n.markdown.getD [])) := by
        rw [noteMember?, hsec, Option.map_some, Snapshot.id_of_section?_eq_some hsec]
      rw [List.filterMap_cons_some hmem]
      by_cases hid : n.sectionId = id
      · subst hid
        rw [List.filter_cons_of_pos (by simp), ih, List.filter_cons_of_pos (by simp), hsec]
        rfl
      · rw [List.filter_cons_of_neg (by simpa using hid), ih, List.filter_cons_of_neg (by simpa using hid)]

theorem get?_notesPayload (s : Snapshot) (id : Text) :
    Table.get? (notesPayload s) id =
      if (s.section? id).isSome then (s.lastNote? id).map fun n => .text (n.markdown.getD []) else none := by
  rw [notesPayload_eq_foldl_set, (Table.listsLast_foldl_set _).entry, filter_filterMap_noteMember?]
  split
  · rw [List.getLast?_map, Option.map_map]
    rfl
  · rfl

/-! ### The objects read back -/

theorem isKept_flagData (flag : Option Bool) (room : Nat) : Json.IsKept room (Field.flagData flag) := by
  cases flag with
  | none => exact .null
  | some b => exact .bool b

theorem isKept_ofText? (t : Option Text) (room : Nat) : Json.IsKept room (.ofText? t) := by
  cases t with
  | none => exact .null
  | some t => exact .text t

theorem isKept_storedValue (f : Field) (room : Nat) : Json.IsKept room f.storedValue := by
  unfold Field.storedValue
  split
  · exact isKept_flagData _ room
  · exact isKept_ofText? _ room

/-- **The fields come back** from the text of their token. -/
theorem read_allFields (s : Snapshot) (key raw : Text) :
    Json.read (ofToken s ⟨.allFields, key, raw⟩).value = .ok (.map (fieldsPayload s)) :=
  Field.read_payload isKept_storedValue s.fields

/-- **The notes come back** from the text of their token. -/
theorem read_allNotes (s : Snapshot) (key raw : Text) :
    Json.read (ofToken s ⟨.allNotes, key, raw⟩).value = .ok (.map (notesPayload s)) := by
  rw [ofToken, notesPayload_eq_foldl_set]
  exact Json.read_foldl_set Json.Style.isRegular_indented (isKept_noteMembers s)

/-! ### First and last entries -/

/-- **The last entry with a key is shown**, so the objects show the first entries just where the last ones
say the same. -/
theorem wholeSnapshot_first_iff (s : Snapshot) (key raw : Text) :
    ∃ fs ns, Json.read (ofToken s ⟨.allFields, key, raw⟩).value = .ok (.map fs) ∧
      Json.read (ofToken s ⟨.allNotes, key, raw⟩).value = .ok (.map ns) ∧
      (∀ k, Table.get? fs k = (s.lastField? k).map Field.storedValue) ∧
      (∀ id, Table.get? ns id =
        if (s.section? id).isSome then (s.lastNote? id).map fun n => .text (n.markdown.getD []) else none) ∧
      ((∀ k f, s.field? k = some f → Table.get? fs k = some f.storedValue) ↔
        ∀ k f g, s.field? k = some f → s.lastField? k = some g → g.storedValue = f.storedValue) ∧
      ((∀ id n, (s.section? id).isSome → s.note? id = some n →
          Table.get? ns id = some (.text (n.markdown.getD []))) ↔
        ∀ id n m, (s.section? id).isSome → s.note? id = some n → s.lastNote? id = some m →
          m.markdown.getD [] = n.markdown.getD []) := by
  have hfields : ∀ k, Table.get? (fieldsPayload s) k = (s.lastField? k).map Field.storedValue :=
    Field.get?_payload Field.storedValue s.fields
  refine ⟨fieldsPayload s, notesPayload s, read_allFields s key raw, read_allNotes s key raw, hfields,
    get?_notesPayload s, ?_, ?_⟩
  · refine forall_congr' fun k => forall_congr' fun f => ?_
    rw [hfields]
    constructor
    · intro h g hf hg
      simpa [hg] using h hf
    · intro h hf
      obtain ⟨g, hg⟩ := Option.isSome_iff_exists.mp ((s.isSome_lastField?_iff k).mpr (by rw [hf]; rfl))
      rw [hg, Option.map_some, h g hf hg]
  · refine forall_congr' fun id => forall_congr' fun n => ?_
    rw [get?_notesPayload]
    constructor
    · intro h m hsec hn hm
      simpa [hm, hsec] using h hsec hn
    · intro h hsec hn
      obtain ⟨m, hm⟩ := Option.isSome_iff_exists.mp ((s.isSome_lastNote?_iff id).mpr (by rw [hn]; rfl))
      rw [if_pos hsec, hm, Option.map_some, h m hsec hn hm]

/-- Of two fields with one key the second is shown. -/
theorem allFields_shows_last_of_repeated :
    let f : Field := { key := "k", label := "K", value := some "1", sectionId := "s" }
    let s : Snapshot := { fields := [f, { f with value := some "2" }] }
    ¬ ∀ fs, Json.read (ofToken s ⟨.allFields, "fields_json", TokenKind.allFields.token []⟩).value =
        .ok (.map fs) → ∀ k f, s.field? k = some f → Table.get? fs k = some f.storedValue := by
  intro f s h
  have hshown : some (Data.text "2") = some (.text "1") := h _ (read_allFields s _ _) "k" f rfl
  simp only [Option.some.injEq, Data.text.injEq] at hshown
  exact absurd hshown (by decide)

end Resolution

end PromptTemplate
