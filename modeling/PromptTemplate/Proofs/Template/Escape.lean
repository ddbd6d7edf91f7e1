import Mathlib.Data.List.Basic
import PromptTemplate.Template.Escape
import PromptTemplate.Proofs.Text.Cut

/-!
# Marks in place of escapes

`Escape.protect` replaces the opening escapes of the whole text first and the closing ones after that.
Both passes together are one scan from the left (`protect_cons` and the two lemmas before it): what is
true of the empty text and is kept by an escape or a literal code point in front is true of every text
(`escape_induction`). Two texts can be protected apart when no escape lies across their seam
(`protect_append`), and at the head of a protected text stands no ordinary text that was not there
before (`prefix_protect_iff`).
-/

namespace PromptTemplate.Escape

open Text

/-- The code point around the name of a mark. -/
abbrev nul : CodePoint := .char '\x00'

/-- The first code point of both escapes. -/
abbrev backslash : CodePoint := .char '\\'

def openName : Text := "ESC_OPEN"

def closeName : Text := "ESC_CLOSE"

theorem openMark_eq : openMark = nul :: (openName ++ [nul]) := by decide

theorem closeMark_eq : closeMark = nul :: (closeName ++ [nul]) := by decide

/-! ### The steps of `protect` -/

@[simp] theorem protect_nil : protect [] = [] := rfl

@[simp] theorem protect_openEscape_append (t : Text) :
    protect (openEscape ++ t) = openMark ++ protect t := by
  unfold protect
  rw [replace_append_self (by decide), replace_append_of_notMem (x := backslash) rfl (by decide)]

@[simp] theorem protect_closeEscape_append (t : Text) :
    protect (closeEscape ++ t) = closeMark ++ protect t := by
  have hopen : replace (closeEscape ++ t) openEscape openMark =
      closeEscape ++ replace t openEscape openMark := by
    show replace (backslash :: ([.char '}', .char '}'] ++ t)) openEscape openMark = _
    rw [replace_cons_of_not (by simp [openEscape]),
      replace_append_of_notMem (x := backslash) rfl (by decide)]
    rfl
  unfold protect
  rw [hopen, replace_append_self (by decide)]

theorem protect_cons {c : CodePoint} {t : Text} (ho : ¬ openEscape <+: c :: t)
    (hc : ¬ closeEscape <+: c :: t) : protect (c :: t) = c :: protect t := by
  have hrep := replace_cons_of_not (r := openMark) ho
  have hc' : ¬ closeEscape <+: c :: replace t openEscape openMark := fun h =>
    hc (prefix_of_prefix_replace (by decide) (n := nul) rfl (by decide) (hrep ▸ h))
  unfold protect
  rw [hrep, replace_cons_of_not hc']

/-- Induction along a text: an escape at its head, or some other beginning of a text that has none
there. -/
theorem escape_piece_induction {P : Text → Prop} (nil : P [])
    (opening : ∀ t, P t → P (openEscape ++ t)) (closing : ∀ t, P t → P (closeEscape ++ t))
    (piece : ∀ t, t ≠ [] → ¬ openEscape <+: t → ¬ closeEscape <+: t →
      ∃ p u, p ≠ [] ∧ p ++ u = t ∧ (P u → P t)) (t : Text) : P t := by
  refine piece_induction nil (fun t ht => ?_) t
  by_cases ho : openEscape <+: t
  · obtain ⟨u, rfl⟩ := ho
    exact ⟨openEscape, u, by decide, rfl, opening u⟩
  by_cases hc : closeEscape <+: t
  · obtain ⟨u, rfl⟩ := hc
    exact ⟨closeEscape, u, by decide, rfl, closing u⟩
  exact piece t ht ho hc

/-- Induction along a text: an escape at its head, or a code point that begins none. -/
theorem escape_induction {P : Text → Prop} (nil : P []) (opening : ∀ t, P t → P (openEscape ++ t))
    (closing : ∀ t, P t → P (closeEscape ++ t))
    (literal : ∀ c t, ¬ openEscape <+: c :: t → ¬ closeEscape <+: c :: t → P t → P (c :: t))
    (t : Text) : P t := by
  refine escape_piece_induction nil opening closing (fun t ht ho hc => ?_) t
  obtain ⟨c, u, rfl⟩ := List.exists_cons_of_ne_nil ht
  exact ⟨[c], u, by simp, rfl, literal c u ho hc⟩

/-! ### Protected text next to protected text -/

/-- No escape begins in `u` and ends in `v`. -/
def Seam (u v : Text) : Prop :=
  ∀ w, w <:+ u → w ≠ [] → ∀ e ∈ [openEscape, closeEscape], e <+: w ++ v → e <+: w

theorem Seam.of_suffix {u u' v : Text} (h : Seam u v) (hs : u' <:+ u) : Seam u' v :=
  fun w hw => h w (hw.trans hs)

theorem protect_append {u v : Text} (h : Seam u v) : protect (u ++ v) = protect u ++ protect v := by
  induction u using escape_induction with
  | nil => rfl
  | opening u ih =>
    rw [List.append_assoc, protect_openEscape_append, ih (h.of_suffix (List.suffix_append _ u)),
      protect_openEscape_append, List.append_assoc]
  | closing u ih =>
    rw [List.append_assoc, protect_closeEscape_append, ih (h.of_suffix (List.suffix_append _ u)),
      protect_closeEscape_append, List.append_assoc]
  | literal c u ho hc ih =>
    have hcu := h (c :: u) (List.suffix_refl _) (by simp)
    have ho' : ¬ openEscape <+: c :: (u ++ v) := fun hp => ho (hcu _ (by simp) hp)
    have hc' : ¬ closeEscape <+: c :: (u ++ v) := fun hp => hc (hcu _ (by simp) hp)
    rw [List.cons_append, protect_cons ho' hc', ih (h.of_suffix (List.suffix_cons c u)),
      protect_cons ho hc]
    rfl

/-- Both escapes begin with a backslash. -/
theorem head?_escape {e : Text} (he : e ∈ [openEscape, closeEscape]) : e.head? = some backslash := by
  rcases List.mem_pair.mp he with rfl | rfl <;> rfl

theorem seam_of_notMem {u : Text} (hu : backslash ∉ u) (v : Text) : Seam u v := by
  intro w hw hne e he hp
  obtain ⟨c, w, rfl⟩ := List.exists_cons_of_ne_nil hne
  obtain ⟨q, rfl⟩ := List.head?_eq_some_iff.mp (head?_escape he)
  obtain ⟨rfl, -⟩ := List.cons_prefix_cons.mp hp
  exact absurd (hw.mem (List.mem_cons_self ..)) hu

/-- No escape holds a backslash behind its first code point. -/
theorem seam_backslash (u v : Text) : Seam u (backslash :: v) := by
  intro w _ hne e he h
  obtain ⟨c, w, rfl⟩ := List.exists_cons_of_ne_nil hne
  obtain ⟨q, rfl⟩ := List.head?_eq_some_iff.mp (head?_escape he)
  have hq : backslash ∉ q := by
    rcases List.mem_pair.mp he with h | h <;> cases h <;> decide
  obtain ⟨rfl, hrest⟩ := List.cons_prefix_cons.mp h
  exact List.cons_prefix_cons.mpr ⟨rfl, (prefix_append_cons_iff hq).mp hrest⟩

theorem protect_eq_self {u : Text} (hu : backslash ∉ u) : protect u = u := by
  unfold protect
  have ho := replace_append_of_notMem (p := openEscape) (r := openMark) rfl hu []
  have hc := replace_append_of_notMem (p := closeEscape) (r := closeMark) rfl hu []
  simp only [List.append_nil, replace_nil] at ho hc
  rw [ho, hc]

/-- Text without a backslash stays as it is, whatever follows it. -/
theorem protect_append_of_notMem {u : Text} (hu : backslash ∉ u) (v : Text) :
    protect (u ++ v) = u ++ protect v := by
  rw [protect_append (seam_of_notMem hu v), protect_eq_self hu]

theorem prefix_of_prefix_protect {y t : Text} (hn : nul ∉ y) (h : y <+: protect t) : y <+: t := by
  have h' : y <+: replace t openEscape openMark :=
    prefix_of_prefix_replace (by decide) (n := nul) rfl hn h
  exact prefix_of_prefix_replace (by decide) (n := nul) rfl hn h'

/-- Ordinary text stands at the head of the protected text exactly when it stood there before. -/
theorem prefix_protect_iff {y t : Text} (hn : nul ∉ y) (hb : backslash ∉ y) :
    y <+: protect t ↔ y <+: t := by
  refine ⟨prefix_of_prefix_protect hn, ?_⟩
  rintro ⟨u, rfl⟩
  rw [protect_append_of_notMem hb]
  exact List.prefix_append _ _

end PromptTemplate.Escape
