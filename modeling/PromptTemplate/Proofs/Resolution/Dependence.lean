import Mathlib.Data.List.Sort
import PromptTemplate.Proofs.Resolution.WholeSnapshot
import PromptTemplate.Proofs.Template.Insertion

/-!
# What a resolved template depends on

A template is resolved with the values of its tokens and nothing else (`resolveWithTokens_congr`).
A token with a key reads little of a snapshot: a field token the type and the value of one field, a
token for a section its title and the lines of its fields, and a token for notes the text of one
note. So two snapshots that agree in this give the same result, whatever else they hold
(`resolveWithTokens_eq_of_agree`).
-/

namespace PromptTemplate

open Text

variable {s s' : Snapshot} {bare : Bool}

/-! ### Lines of fields -/

namespace Field

/-- What the value of a field token is made of. -/
def content (f : Field) : FieldType × Option Text := (f.type, f.value)

/-- What the line of a field in its section is made of, and what its place among the lines is found by. -/
structure Line where
  label : Text
  type : FieldType
  value : Option Text
  orderIndex : Int
deriving DecidableEq

def line (f : Field) : Line := ⟨f.label, f.type, f.value, f.orderIndex⟩

def Line.text (l : Line) : Text :=
  plainLine { key := [], label := l.label, type := l.type, value := l.value, sectionId := [] }

/-- The lines of a section are made of what the lines of its fields are made of. -/
theorem map_plainLine_inOrder (fs : List Field) :
    (inOrder fs).map plainLine =
      ((fs.map line).mergeSort fun a b => a.orderIndex ≤ b.orderIndex).map Line.text := by
  have hsort : (inOrder fs).map line = (fs.map line).mergeSort fun a b => a.orderIndex ≤ b.orderIndex :=
    List.map_mergeSort fun _ _ _ _ => rfl
  rw [← hsort, List.map_map]
  rfl

theorem length_inOrder (fs : List Field) : (inOrder fs).length = fs.length := List.length_mergeSort fs

end Field

/-! ### Values of tokens with a key -/

namespace Resolution

theorem ofField_congr {key : Text}
    (h : (s.field? key).map Field.content = (s'.field? key).map Field.content) :
    ofField s key = ofField s' key := by
  unfold ofField
  cases hf : s.field? key with
  | none =>
    have hnone : s'.field? key = none := by simpa [hf, eq_comm] using h
    rw [hnone]
  | some f =>
    obtain ⟨f', hf', hcontent⟩ : ∃ f', s'.field? key = some f' ∧ f'.content = f.content := by
      simpa [hf, eq_comm] using h
    obtain ⟨htype, hvalue⟩ := Prod.mk.inj hcontent
    rw [hf']
    dsimp only
    rw [htype, hvalue]

/-- The value of a section token is made of the title and the lines of the section. -/
theorem ofSection_congr {id : Text}
    (h : (s.section? id).map
        (fun sec => (sec.title, (Field.inOrder (s.fieldsIn sec.id)).map Field.plainLine)) =
      (s'.section? id).map
        fun sec => (sec.title, (Field.inOrder (s'.fieldsIn sec.id)).map Field.plainLine)) :
    ofSection s id = ofSection s' id := by
  unfold ofSection
  cases hsec : s.section? id with
  | none =>
    have hnone : s'.section? id = none := by simpa [hsec, eq_comm] using h
    rw [hnone]
  | some sec =>
    rw [hsec, Option.map_some, eq_comm, Option.map_eq_some_iff] at h
    obtain ⟨sec', hsec', heq⟩ := h
    obtain ⟨htitle, hlines⟩ := Prod.mk.inj heq
    have hlength := congrArg List.length hlines
    simp only [List.length_map, Field.length_inOrder] at hlength
    rw [hsec']
    dsimp only
    -- both sections are without fields, or both show their lines
    cases hfs : s.fieldsIn sec.id with
    | nil =>
      rw [hfs, List.length_nil, List.length_eq_zero_iff] at hlength
      rw [hlength, htitle]
    | cons f fs =>
      rw [hfs] at hlength hlines
      obtain ⟨f', fs', hfs'⟩ := List.exists_cons_of_length_eq_add_one hlength
      have htext : Field.plainText (f :: fs) = Field.plainText (f' :: fs') := by
        rw [hfs'] at hlines
        unfold Field.plainText
        rw [hlines]
      rw [hfs']
      dsimp only
      rw [htext]

theorem ofNotes_congr {id : Text}
    (h : (s.section? id).map (fun sec => (s.note? sec.id).bind Note.markdown) =
      (s'.section? id).map fun sec => (s'.note? sec.id).bind Note.markdown) :
    ofNotes s id = ofNotes s' id := by
  unfold ofNotes notesText?
  cases hsec : s.section? id with
  | none =>
    have hnone : s'.section? id = none := by simpa [hsec, eq_comm] using h
    rw [hnone]
  | some sec =>
    rw [hsec, Option.map_some, eq_comm, Option.map_eq_some_iff] at h
    obtain ⟨sec', hsec', hnotes⟩ := h
    rw [hsec']
    dsimp only
    rw [hnotes]

end Resolution

/-! ### Whole templates -/

namespace Template

/-- **A template is resolved with the values of its tokens.** -/
theorem resolveWithTokens_congr {t : Text}
    (h : ∀ o ∈ occurrences bare (Escape.protect t),
      Resolution.ofToken s o.token = Resolution.ofToken s' o.token) :
    resolveWithTokens t s bare = resolveWithTokens t s' bare := by
  have h : ∀ k ∈ (cut bare (Escape.protect t)).hits,
      Resolution.ofToken s k = Resolution.ofToken s' k := by
    rw [← map_token_occurrences]
    exact List.forall_mem_map.mpr h
  have htext : resolve t s bare = resolve t s' bare := by
    unfold resolve Cut.render Cut.mapLiteral
    dsimp only
    congr 1
    refine List.flatMap_congr fun p hp => ?_
    obtain ⟨q, hq, rfl⟩ := List.mem_map.mp hp
    rw [h q.1 (List.mem_map_of_mem hq)]
  have hfilter : ∀ p : Resolution → Bool,
      (cut bare (Escape.protect t)).hits.filter (fun k => p (Resolution.ofToken s k)) =
        (cut bare (Escape.protect t)).hits.filter fun k => p (Resolution.ofToken s' k) := by
    intro p
    exact List.filter_congr fun k hk => by rw [h k hk]
  rw [resolveWithTokens_eq, resolveWithTokens_eq, htext, hfilter Resolution.readsEmpty,
    hfilter Resolution.readsMissing]

/-- The template has no token for all fields or all notes at once. -/
def IsKeyed (t : Text) (bare : Bool) : Prop :=
  ∀ o ∈ occurrences bare (Escape.protect t), o.token.kind ≠ .allFields ∧ o.token.kind ≠ .allNotes

instance (t : Text) (bare : Bool) : Decidable (IsKeyed t bare) := by
  unfold IsKeyed
  infer_instance

end Template

namespace Snapshot

/-- Two snapshots hold the same of what a token with a key names: both hold no field of its key, or fields
with the same type and value; both no section of its id, or sections with the same title whose fields agree in
label, type, value and place; both no section, or sections with the same text as their first note. -/
def AgreeOn (s s' : Snapshot) (k : Token) : Prop :=
  match k.kind with
  | .field => (s.field? k.key).map Field.content = (s'.field? k.key).map Field.content
  | .sectionFields =>
    (s.section? k.key).map (fun sec => (sec.title, (s.fieldsIn sec.id).map Field.line)) =
      (s'.section? k.key).map fun sec => (sec.title, (s'.fieldsIn sec.id).map Field.line)
  | .sectionNotes =>
    (s.section? k.key).map (fun sec => (s.note? sec.id).bind Note.markdown) =
      (s'.section? k.key).map fun sec => (s'.note? sec.id).bind Note.markdown
  | .allFields | .allNotes => True

instance (k : Token) : Decidable (s.AgreeOn s' k) := by
  unfold AgreeOn
  split <;> infer_instance

theorem AgreeOn.ofToken_eq {k : Token} (h : AgreeOn s s' k)
    (hkind : k.kind ≠ .allFields ∧ k.kind ≠ .allNotes) :
    Resolution.ofToken s k = Resolution.ofToken s' k := by
  obtain ⟨kind, key, raw⟩ := k
  unfold Resolution.ofToken
  cases kind with
  | field => exact Resolution.ofField_congr h
  | sectionFields =>
    refine Resolution.ofSection_congr ?_
    simp only [Field.map_plainLine_inOrder]
    simpa only [Option.map_map, Function.comp_def] using
      congrArg (Option.map fun p : Text × List Field.Line =>
        (p.1, (p.2.mergeSort fun a b => a.orderIndex ≤ b.orderIndex).map Field.Line.text)) h
  | sectionNotes => exact Resolution.ofNotes_congr h
  | allFields => exact absurd rfl hkind.1
  | allNotes => exact absurd rfl hkind.2

end Snapshot

namespace Template

/-- **Nothing but what the tokens name reaches the result.** Two snapshots that agree on every token of a
template with keys only give the same text, the same empty and the same missing tokens. -/
theorem resolveWithTokens_eq_of_agree {t : Text} (hkeyed : IsKeyed t bare)
    (h : ∀ o ∈ occurrences bare (Escape.protect t), s.AgreeOn s' o.token) :
    resolveWithTokens t s bare = resolveWithTokens t s' bare :=
  resolveWithTokens_congr fun o ho => (h o ho).ofToken_eq (hkeyed o ho)

/-- Other keys, labels, slugs and places, and entries behind the first ones, do not show. -/
theorem resolveWithTokens_eq_of_agree_elsewhere :
    let f : Field := { key := "a", label := "A", value := some "1", sectionId := "x" }
    let g : Field := { key := "b", label := "B", type := .toggle, value := some "true", sectionId := "y" }
    let s : Snapshot := {
      fields := [f, g]
      sections := [⟨"x", "X", "x"⟩, ⟨"y", "Y", "y"⟩]
      notes := [⟨"x", some "n"⟩] }
    let s' : Snapshot := {
      fields := [{ g with key := "c", required := true }, { f with label := "Z", orderIndex := 7 },
        { f with value := some "2" }]
      sections := [⟨"y", "Y", "z"⟩, ⟨"x", "Z", "z"⟩, ⟨"y", "Z", "z"⟩]
      notes := [⟨"z", some "2"⟩, ⟨"x", some "n"⟩, ⟨"x", some "2"⟩] }
    let t : Text := "{{a}} {{section:y}} {{Notes:x}} {{Notes:y}}{{z}}"
    IsKeyed t true ∧ (∀ o ∈ occurrences true (Escape.protect t), s.AgreeOn s' o.token) ∧
      resolveWithTokens t s true = resolveWithTokens t s' true ∧
      resolveWithTokens t s' true =
        ⟨"1 B: Yes n (No notes)[Field not found: z]", ["{{Notes:y}}"], ["{{z}}"]⟩ := by
  intro f g s s' t
  have hkeyed : IsKeyed t true := by decide
  have hagree : ∀ o ∈ occurrences true (Escape.protect t), s.AgreeOn s' o.token := by decide
  exact ⟨hkeyed, hagree, resolveWithTokens_eq_of_agree hkeyed hagree, by decide +kernel⟩

end Template

end PromptTemplate
