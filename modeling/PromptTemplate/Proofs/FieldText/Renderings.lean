import PromptTemplate.Proofs.FieldText.Blocks
import PromptTemplate.Proofs.Resolution.Filing
import PromptTemplate.Proofs.Resolution.WholeSnapshot

/-!
# The renderings of one field

A field is shown by its token, on its line in the text of a section, and as a member of a JSON object. Each way
has rules of its own for what is empty and for the words of a toggle, and the rules come to one of four cases
(`Field.Rendering`): nothing, a flag, a short text or a long one. So the line and the member can be told from what
the token gives (`renderings_agree`).
-/

namespace PromptTemplate

open Text

namespace Field

/-- What a token gives for a field, what stands on the line of the field, and its value in JSON. -/
inductive Rendering (f : Field) : Text → Text → Data → Prop
  /-- No text, or a toggle that is neither on nor off. -/
  | unset : Rendering f [] emptyText .null
  | flag (htype : f.type = .toggle) (b : Bool) : Rendering f (yesNo b) (yesNo b) (.bool b)
  | shortText (htype : f.type = .shortText) {v : Text} (hv : v ≠ []) : Rendering f v v (.text v)
  | longText (htype : f.type = .longText) {v : Text} (hv : v ≠ []) : Rendering f v (indentLines v) (.text v)

variable {s : Snapshot} {f : Field}

/-- **Every field has one of the renderings**, whichever rules are asked. -/
theorem rendering_of_field? {key : Text} (hf : s.field? key = some f) :
    Rendering f (Resolution.ofField s key).value f.valueText f.sectionValue := by
  unfold Resolution.ofField valueText sectionValue
  simp only [hf]
  cases hvalue : f.value with
  | none => cases f.type <;> exact .unset
  | some v =>
    by_cases hv : v = []
    · subst hv
      cases f.type <;> exact .unset
    · have hfilled : v.isEmpty = false := by simpa using hv
      cases htype : f.type with
      | toggle =>
        cases hflag : toggleFlag? (some v) with
        | none => simpa [hfilled, hflag, flagData] using Rendering.unset
        | some b => simpa [hfilled, hflag, flagData] using Rendering.flag htype b
      | shortText => simpa [hfilled, Option.filter, Data.ofText?] using Rendering.shortText htype hv
      | longText => simpa [hfilled, Option.filter, Data.ofText?] using Rendering.longText htype hv

/-! ### The object of a section -/

theorem isKept_sectionValue (f : Field) (room : Nat) : Json.IsKept room f.sectionValue := by
  unfold sectionValue
  split
  · exact Resolution.isKept_flagData _ room
  · exact Resolution.isKept_ofText? _ room

/-- **The fields of a section come back** from their JSON text. -/
theorem read_jsonText (fields : List Field) :
    Json.read (jsonText fields) = .ok (.map (payload sectionValue (inOrder fields))) :=
  read_payload isKept_sectionValue _

/-- **The renderings of a field agree.** The token of a field gives nothing just where its value in JSON is
null, and then its line says that it is empty. Else the line shows what the token gives, a long text with its
lines indented, and in JSON stands the flag of a toggle and the same text for the other types. -/
theorem renderings_agree (hf : s.field? f.key = some f) (raw : Text) :
    let r := (Resolution.ofToken s ⟨.field, f.key, raw⟩).value
    ∃ j, Json.read (jsonText [f]) = .ok (.map [(f.key, j)]) ∧
      (r = [] ↔ j = .null) ∧ (r = [] → f.valueText = Text.ofString "(empty)") ∧
      (r ≠ [] →
        f.valueText = (if f.type = .longText then r.replace "\n" "\n  " else r) ∧
        (f.type = .toggle → ∃ b, j = .bool b ∧ r = yesNo b) ∧
        (f.type ≠ .toggle → j = .text r)) := by
  intro r
  have hread : Json.read (jsonText [f]) = .ok (.map [(f.key, f.sectionValue)]) := by
    rw [read_jsonText, inOrder, List.mergeSort_singleton]
    rfl
  have hrendering : Rendering f r f.valueText f.sectionValue := rendering_of_field? hf
  refine ⟨f.sectionValue, hread, ?_⟩
  clear_value r
  generalize f.valueText = shown, f.sectionValue = j at hrendering ⊢
  cases hrendering with
  | unset => exact ⟨by simp, fun _ => rfl, fun h => absurd rfl h⟩
  | flag htype b =>
    have hne := yesNo_ne_nil b
    refine ⟨by simp [hne], fun h => absurd h hne, fun _ => ⟨?_, fun _ => ⟨b, rfl, rfl⟩, absurd htype⟩⟩
    rw [if_neg (by simp [htype])]
  | shortText htype hv =>
    refine ⟨by simp [hv], fun h => absurd h hv, fun _ => ⟨?_, by simp [htype], fun _ => rfl⟩⟩
    rw [if_neg (by simp [htype])]
  | longText htype hv =>
    refine ⟨by simp [hv], fun h => absurd h hv, fun _ => ⟨?_, by simp [htype], fun _ => rfl⟩⟩
    rw [if_pos htype, indentLines_eq_replace]

/-- A long text, and a toggle that is neither on nor off. A later field with the key of the toggle does not
count. -/
theorem renderings_agree_two :
    let f : Field := { key := "f", label := "F", type := .longText, value := some "a\n b", sectionId := "s" }
    let g : Field := { key := "g", label := "G", type := .toggle, value := some "on", sectionId := "s" }
    let s : Snapshot := { fields := [f, g, { g with value := some "true" }] }
    (s.field? f.key = some f ∧ (Resolution.ofToken s ⟨.field, f.key, []⟩).value = Text.ofString "a\n b" ∧
      f.valueText = Text.ofString "a\n   b" ∧
      Json.read (jsonText [f]) = .ok (.map [(f.key, .text "a\n b")])) ∧
    s.field? g.key = some g ∧ (Resolution.ofToken s ⟨.field, g.key, []⟩).value = [] ∧
      g.valueText = Text.ofString "(empty)" ∧ Json.read (jsonText [g]) = .ok (.map [(g.key, .null)]) := by
  intro f g s
  have hf : s.field? f.key = some f := rfl
  have hg : s.field? g.key = some g := rfl
  have hvalue : (Resolution.ofToken s ⟨.field, f.key, []⟩).value = Text.ofString "a\n b" := rfl
  have hnone : (Resolution.ofToken s ⟨.field, g.key, []⟩).value = [] := rfl
  obtain ⟨j, hread, -, -, hshown⟩ := renderings_agree hf []
  obtain ⟨k, hreadNull, hnull, hempty, -⟩ := renderings_agree hg []
  obtain ⟨htext, -, hj⟩ := hshown (by rw [hvalue]; decide)
  rw [hvalue] at htext hj
  refine ⟨⟨hf, hvalue, htext.trans (by decide), ?_⟩, hg, hnone, hempty hnone, ?_⟩
  · rw [hread, hj (by decide)]
  · rw [hreadNull, hnull.mp hnone]

end Field

end PromptTemplate
