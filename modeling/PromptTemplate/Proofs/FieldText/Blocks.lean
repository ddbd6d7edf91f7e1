import Mathlib.Data.Int.Order.Basic
import Mathlib.Data.List.SplitBy
import PromptTemplate.FieldText
import PromptTemplate.Proofs.Sort
import PromptTemplate.Proofs.Text.Join

/-!
# Sections read back field by field

In the text of a section a line that begins with two spaces goes on with the field above it: the lines of a
long value are indented so, and a field begins with its label. So the text is read back as one block for each
field (`blocks_plainText`), whatever the lines of the long values hold, and a long value is what its block holds
without the indentation.
-/

namespace PromptTemplate

open Text

/-! ### Blocks of lines -/

namespace Text

/-- What a line that goes on with the line above it begins with. -/
def indentation : Text := [.char ' ', .char ' ']

/-- The lines of a text, each indented line joined to the line above it. -/
def blocks (t : Text) : List Text :=
  ((t.splitOn (.char '\n')).splitBy fun _ next => indentation.isPrefixOf next).map (joinWith [.char '\n'])

/-- The text is not indented, and all its lines but the first are. -/
structure IsBlock (t : Text) : Prop where
  start : ¬ indentation <+: t
  hanging : ∀ line ∈ (t.splitOn (.char '\n')).tail, indentation <+: line

namespace IsBlock

variable {t : Text}

/-- The lines of a block: the first is not indented, and the others are. -/
theorem exists_lines (h : IsBlock t) : ∃ first rest, t.splitOn (.char '\n') = first :: rest ∧
    indentation.isPrefixOf first = false ∧ ∀ line ∈ rest, indentation.isPrefixOf line = true := by
  obtain ⟨first, rest, hlines⟩ := List.exists_cons_of_ne_nil (splitOn_ne_nil (.char '\n') t)
  have ht : t = first ++ rest.flatMap ([.char '\n'] ++ ·) := by
    rw [← joinWith_cons_eq_flatMap, ← hlines, joinWith_splitOn]
  refine ⟨first, rest, hlines, ?_, fun line hline => ?_⟩
  · rw [← Bool.not_eq_true, List.isPrefixOf_iff_prefix]
    exact fun hfirst => h.start (ht ▸ hfirst.trans (List.prefix_append first _))
  · rw [List.isPrefixOf_iff_prefix]
    exact h.hanging line (by rwa [hlines, List.tail_cons])

end IsBlock

/-- **Blocks one below the other** are read back. -/
theorem blocks_joinWith {ts : List Text} (hne : ts ≠ []) (h : ∀ t ∈ ts, IsBlock t) :
    blocks (joinWith [.char '\n'] ts) = ts := by
  have hgroups : ((ts.map (splitOn (.char '\n'))).flatten.splitBy fun _ next => indentation.isPrefixOf next) =
      ts.map (splitOn (.char '\n')) := by
    apply List.splitBy_flatten
    · intro hnil
      obtain ⟨t, -, ht⟩ := List.mem_map.mp hnil
      exact splitOn_ne_nil _ t ht
    · intro lines hlines
      obtain ⟨t, ht, rfl⟩ := List.mem_map.mp hlines
      obtain ⟨first, rest, hlines, -, hrest⟩ := (h t ht).exists_lines
      rw [hlines]
      apply List.Pairwise.isChain
      exact List.pairwise_cons.mpr ⟨hrest, List.pairwise_of_forall_mem_list fun _ _ => hrest⟩
    · -- a group ends where the next block begins, whatever its own last line is
      apply List.Pairwise.isChain
      refine List.pairwise_of_forall_mem_list fun above habove below hbelow => ?_
      obtain ⟨t, -, rfl⟩ := List.mem_map.mp habove
      obtain ⟨u, hu, rfl⟩ := List.mem_map.mp hbelow
      obtain ⟨first, rest, hlines, hfirst, -⟩ := (h u hu).exists_lines
      refine ⟨splitOn_ne_nil _ t, splitOn_ne_nil _ u, ?_⟩
      simpa only [hlines, List.head_cons] using hfirst
  rw [blocks, splitOn_joinWith hne, hgroups, List.map_map]
  exact (List.map_congr_left fun t _ => joinWith_splitOn (.char '\n') t).trans (List.map_id ts)

end Text

/-! ### Indented lines -/

theorem splitOn_indentLines {t first : Text} {rest : List Text} (ht : t.splitOn (.char '\n') = first :: rest) :
    (indentLines t).splitOn (.char '\n') = first :: rest.map (indentation ++ ·) := by
  have hparts : ∀ part ∈ first :: rest, .char '\n' ∉ part := fun part hpart =>
    notMem_of_mem_splitOn (ht ▸ hpart)
  rw [List.forall_mem_cons] at hparts
  have hjoin : indentLines t = joinWith [.char '\n'] (first :: rest.map (indentation ++ ·)) := by
    rw [indentLines, ht, joinWith_cons_eq_flatMap, joinWith_cons_eq_flatMap, List.flatMap_map]
    rfl
  rw [hjoin]
  refine splitOn_joinWith_of_notMem (List.cons_ne_nil _ _) (List.forall_mem_cons.mpr ⟨hparts.1, ?_⟩)
  rw [List.forall_mem_map]
  exact fun part hpart => List.not_mem_append (by decide) (hparts.2 part hpart)

/-- Each line feed with an indentation behind it. -/
theorem indentLines_eq_replace (t : Text) : indentLines t = t.replace "\n" "\n  " := by
  conv_rhs => rw [← joinWith_splitOn (.char '\n') t]
  exact (replace_joinWith _ rfl fun _ => notMem_of_mem_splitOn).symm

theorem replace_indentLines (t : Text) : (indentLines t).replace "\n  " "\n" = t := by
  refine (replace_joinWith _ rfl fun _ => notMem_of_mem_splitOn).trans ?_
  exact joinWith_splitOn (.char '\n') t

namespace Field

/-! ### The lines of a section -/

theorem isStableSort_inOrder (fields : List Field) : IsStableSort orderIndex fields (inOrder fields) :=
  isStableSort_mergeSort (fun _ _ => decide_eq_true_iff) fields

/-- A field whose line can be told from those of the others: its label is on one line that is not indented, and
so is a value that is not to be indented. -/
structure IsReadable (f : Field) : Prop where
  label_notMem : .char '\n' ∉ f.label
  label_start : ¬ indentation <+: f.label
  value_notMem : f.type = .shortText → ∀ v, f.value = some v → .char '\n' ∉ v

variable {f : Field}

theorem valueText_longText {v : Text} (htype : f.type = .longText) (hvalue : f.value = some v) (hv : v ≠ []) :
    f.valueText = indentLines v := by
  simp [valueText, hvalue, htype, hv]

theorem IsReadable.hanging_valueText (h : f.IsReadable) :
    ∀ line ∈ (f.valueText.splitOn (.char '\n')).tail, indentation <+: line := by
  have hone : ∀ {t : Text}, .char '\n' ∉ t → ∀ line ∈ (t.splitOn (.char '\n')).tail, indentation <+: line := by
    intro t ht line hline
    rw [splitOn_of_notMem ht] at hline
    cases hline
  unfold valueText
  split
  · exact hone (by decide)
  · rename_i v hvalue
    split
    · exact hone (by decide)
    · split
      · rename_i htype
        split
        · rename_i flag _
          exact hone (by cases flag <;> decide)
        · exact hone (by decide)
      · obtain ⟨first, rest, hlines⟩ := List.exists_cons_of_ne_nil (splitOn_ne_nil (.char '\n') v)
        rw [splitOn_indentLines hlines, List.tail_cons, List.forall_mem_map]
        exact fun line _ => List.prefix_append indentation line
      · rename_i htype
        exact hone (h.value_notMem htype v hvalue)

theorem IsReadable.isBlock_plainLine (h : f.IsReadable) : IsBlock f.plainLine := by
  constructor
  · -- the indentation has no colon, so it would have to stand before that of the line
    rw [plainLine, List.append_assoc]
    exact mt (prefix_append_cons_iff (x := .char ':') (by decide)).mp h.label_start
  · have hlead : .char '\n' ∉ f.label ++ Text.ofString ": " := List.not_mem_append h.label_notMem (by decide)
    have hhanging := h.hanging_valueText
    obtain ⟨first, rest, hlines⟩ := List.exists_cons_of_ne_nil (splitOn_ne_nil (.char '\n') f.valueText)
    rw [hlines, List.tail_cons] at hhanging
    rwa [plainLine, splitOn_append_of_notMem hlead hlines, List.tail_cons]

/-- **The text of a section is read back field by field.** -/
theorem blocks_plainText {fields : List Field} (hne : fields ≠ []) (h : ∀ f ∈ fields, f.IsReadable) :
    IsStableSort orderIndex fields (inOrder fields) ∧
    blocks (plainText fields) = (inOrder fields).map (fun f => f.label ++ Text.ofString ": " ++ f.valueText) ∧
    ∀ (f : Field) v, f.type = .longText → f.value = some v → v ≠ [] → f.valueText.replace "\n  " "\n" = v := by
  have hsort := isStableSort_inOrder fields
  refine ⟨hsort, ?_, fun f v htype hvalue hv => ?_⟩
  · apply blocks_joinWith
    · rw [Ne, List.map_eq_nil_iff, ← List.length_eq_zero_iff, hsort.perm.length_eq, List.length_eq_zero_iff]
      exact hne
    · rw [List.forall_mem_map]
      exact fun f hf => (h f (hsort.perm.mem_iff.mp hf)).isBlock_plainLine
  · rw [valueText_longText htype hvalue hv, replace_indentLines]

/-- A long text with an empty line and an indented one, before a toggle at the same place, and behind a field
whose label begins with one space. -/
theorem blocks_plainText_three :
    let f : Field := {
      key := "f", label := "Plan", type := .longText, value := some "a: 1\n\n  b", sectionId := "s" }
    let g : Field := { key := "g", label := "", type := .toggle, value := some "true", sectionId := "s" }
    let h : Field := { key := "h", label := " No", value := some "7", sectionId := "s", orderIndex := -1 }
    (∀ k ∈ [f, g, h], k.IsReadable) ∧
      blocks (plainText [f, g, h]) =
        [Text.ofString " No: 7", Text.ofString "Plan: a: 1\n  \n    b", Text.ofString ": Yes"] ∧
      f.valueText.replace "\n  " "\n" = Text.ofString "a: 1\n\n  b" := by
  intro f g h
  have hreadable : ∀ k ∈ [f, g, h], k.IsReadable := by
    intro k hk
    simp only [List.mem_cons, List.not_mem_nil, or_false] at hk
    rcases hk with rfl | rfl | rfl
    · exact ⟨by decide, by decide, nofun⟩
    · exact ⟨by decide, by decide, nofun⟩
    · refine ⟨by decide, by decide, fun _ v hv => ?_⟩
      cases hv
      decide
  obtain ⟨-, hblocks, hvalue⟩ := blocks_plainText (List.cons_ne_nil f [g, h]) hreadable
  have horder : inOrder [f, g, h] = [h, f, g] := by simp [inOrder, List.mergeSort, f, g, h]
  rw [horder] at hblocks
  exact ⟨hreadable, hblocks, hvalue f _ rfl rfl (by decide)⟩

end Field

end PromptTemplate
