import PromptTemplate.Proofs.Template.Escape

/-!
# Taking the marks out again

`Escape.restore` and `Escape.unescape` are the same two replacements with different texts in place of
the marks (`unmark`): the opening marks of the whole text go first. This goes wrong in one way only.
Behind a closing mark and before any other mark, the text `ESC_OPEN` has a NUL on either side and is
taken for an opening mark. A template without NUL has such a place where a closing escape, `ESC_OPEN`
and another escape follow each other (`HasFalseMark`), and it comes back from `protect` and `restore`
exactly when it has none (`restore_protect_eq_iff`).
-/

namespace PromptTemplate.Escape

open Text

/-! ### The steps of `unmark` -/

/-- The text with `o` in place of the opening marks and `c` in place of the closing ones. -/
def unmark (o c t : Text) : Text := (t.replace openMark o).replace closeMark c

theorem restore_eq_unmark (t : Text) : restore t = unmark openEscape closeEscape t := rfl

section Unmark

variable {o c : Text}

theorem unmark_append_of_notMem {u : Text} (hu : nul ∉ u) (t : Text) :
    unmark o c (u ++ t) = u ++ unmark o c t := by
  unfold unmark
  rw [replace_append_of_notMem rfl hu, replace_append_of_notMem rfl hu]

theorem unmark_openMark_append (ho : nul ∉ o) (t : Text) :
    unmark o c (openMark ++ t) = o ++ unmark o c t := by
  unfold unmark
  rw [replace_append_self (by decide), replace_append_of_notMem rfl ho]

/-- A closing mark passes through the replacement of the opening marks up to its second NUL. -/
theorem replace_closeMark_append (t : Text) :
    replace (closeMark ++ t) openMark o = nul :: (closeName ++ replace (nul :: t) openMark o) := by
  have hname : ¬ openMark <+: nul :: (closeName ++ nul :: t) := by
    rintro ⟨u, hu⟩
    simp [openMark, closeName, Text.ofString] at hu
  have happ : closeMark ++ t = nul :: (closeName ++ nul :: t) := by rw [closeMark_eq]; simp
  rw [happ, replace_cons_of_not hname, replace_append_of_notMem (x := nul) rfl (by decide)]

theorem openMark_prefix_nul_cons_iff {t : Text} : openMark <+: nul :: t ↔ openName ++ [nul] <+: t := by
  rw [openMark_eq, List.cons_prefix_cons]
  exact and_iff_right rfl

theorem unmark_closeMark_append {t : Text} (h : ¬ openName ++ [nul] <+: t) :
    unmark o c (closeMark ++ t) = c ++ unmark o c t := by
  have hnot : ¬ openMark <+: nul :: t := mt openMark_prefix_nul_cons_iff.mp h
  have hopen : replace (closeMark ++ t) openMark o = closeMark ++ replace t openMark o := by
    rw [replace_closeMark_append, replace_cons_of_not hnot, closeMark_eq]
    simp
  unfold unmark
  rw [hopen, replace_append_self (by decide)]

/-- The first NUL of a closing mark stays when the second one is taken for the beginning of an opening
mark. -/
theorem nul_mem_unmark_closeMark_append {t : Text} (ho : nul ∉ o) (hne : o ≠ [])
    (h : openName ++ [nul] <+: t) : nul ∈ unmark o c (closeMark ++ t) := by
  obtain ⟨x, q, rfl⟩ := List.exists_cons_of_ne_nil hne
  obtain ⟨u, hu⟩ := openMark_prefix_nul_cons_iff.mpr h
  have hx : nul ≠ x := fun e => ho (e ▸ List.mem_cons_self ..)
  have hclose : ¬ closeMark <+: nul :: (closeName ++ x :: (q ++ replace u openMark (x :: q))) := by
    rw [closeMark_eq, List.cons_prefix_cons, List.prefix_append_right_inj, List.cons_prefix_cons]
    exact fun hp => hx hp.2.1
  unfold unmark
  rw [replace_closeMark_append, ← hu, replace_append_self (by decide), List.cons_append,
    replace_cons_of_not hclose]
  exact List.mem_cons_self ..

theorem unmark_cons {x : CodePoint} (hx : nul ≠ x) (t : Text) :
    unmark o c (x :: t) = x :: unmark o c t :=
  unmark_append_of_notMem (u := [x]) (by simpa using hx) t

end Unmark

/-! ### Places where a name reads as a mark -/

/-- Somewhere a closing escape, the name of the opening mark and another escape follow each other. -/
def HasFalseMark (t : Text) : Prop :=
  ∃ e ∈ [openEscape, closeEscape], closeEscape ++ (openName ++ e) <:+: t

instance (t : Text) : Decidable (HasFalseMark t) :=
  decidable_of_iff (∃ e ∈ [openEscape, closeEscape], t.has (closeEscape ++ (openName ++ e)) = true)
    (by simp only [HasFalseMark, has_eq_true_iff])

section Infix

variable {x t : Text}

theorem closeEscape_append_infix_openEscape_append_iff :
    closeEscape ++ x <:+: openEscape ++ t ↔ closeEscape ++ x <:+: t := by
  simp [closeEscape, openEscape, List.infix_cons_iff]

theorem closeEscape_append_infix_closeEscape_append_iff :
    closeEscape ++ x <:+: closeEscape ++ t ↔ x <+: t ∨ closeEscape ++ x <:+: t := by
  simp [closeEscape, List.infix_cons_iff]

theorem closeEscape_append_infix_cons_iff {c : CodePoint} (hc : ¬ closeEscape <+: c :: t) :
    closeEscape ++ x <:+: c :: t ↔ closeEscape ++ x <:+: t := by
  rw [List.infix_cons_iff]
  exact or_iff_right fun h => hc ((List.prefix_append _ _).trans h)

end Infix

theorem HasFalseMark.append_left {t : Text} (h : HasFalseMark t) (u : Text) :
    HasFalseMark (u ++ t) := by
  obtain ⟨e, he, h⟩ := h
  exact ⟨e, he, h.trans (List.suffix_append u t).isInfix⟩

theorem hasFalseMark_openEscape_append_iff {t : Text} :
    HasFalseMark (openEscape ++ t) ↔ HasFalseMark t := by
  simp only [HasFalseMark, closeEscape_append_infix_openEscape_append_iff]

theorem hasFalseMark_closeEscape_append_iff {t : Text} :
    HasFalseMark (closeEscape ++ t) ↔
      (∃ e ∈ [openEscape, closeEscape], openName ++ e <+: t) ∨ HasFalseMark t := by
  simp only [HasFalseMark, closeEscape_append_infix_closeEscape_append_iff, and_or_left, exists_or]

theorem hasFalseMark_cons_iff {c : CodePoint} {t : Text} (hc : ¬ closeEscape <+: c :: t) :
    HasFalseMark (c :: t) ↔ HasFalseMark t := by
  simp only [HasFalseMark, closeEscape_append_infix_cons_iff hc]

/-- Where the text holds no NUL, a NUL at the head of the protected text comes from an escape. -/
theorem nul_prefix_protect_iff {t : Text} (hn : nul ∉ t) :
    [nul] <+: protect t ↔ ∃ e ∈ [openEscape, closeEscape], e <+: t := by
  constructor
  · intro h
    by_cases ho : openEscape <+: t
    · exact ⟨_, List.mem_cons_self .., ho⟩
    by_cases hc : closeEscape <+: t
    · exact ⟨_, by simp, hc⟩
    cases t with
    | nil => simp at h
    | cons c t =>
      rw [protect_cons ho hc] at h
      exact absurd (List.mem_cons.mpr (.inl (List.cons_prefix_cons.mp h).1)) hn
  · rintro ⟨e, he, u, rfl⟩
    rcases List.mem_pair.mp he with rfl | rfl
    · rw [protect_openEscape_append, openMark_eq]
      exact ⟨_, rfl⟩
    · rw [protect_closeEscape_append, closeMark_eq]
      exact ⟨_, rfl⟩

theorem openName_nul_prefix_protect_iff {t : Text} (hn : nul ∉ t) :
    openName ++ [nul] <+: protect t ↔ ∃ e ∈ [openEscape, closeEscape], openName ++ e <+: t := by
  have hname : nul ∉ openName ∧ backslash ∉ openName := by decide
  by_cases h : openName <+: t
  · obtain ⟨u, rfl⟩ := h
    have hu : nul ∉ u := fun hm => hn (List.mem_append_right _ hm)
    rw [protect_append_of_notMem hname.2]
    simp only [List.prefix_append_right_inj]
    exact nul_prefix_protect_iff hu
  · have hp : ¬ openName <+: protect t := mt (prefix_protect_iff hname.1 hname.2).mp h
    constructor
    · exact fun h' => absurd ((List.prefix_append _ _).trans h') hp
    · rintro ⟨e, -, h'⟩
      exact absurd ((List.prefix_append _ _).trans h') h

/-! ### Plain text -/

/-- Text that holds neither NUL nor the name of the opening mark. -/
def IsPlain (t : Text) : Prop := nul ∉ t ∧ ¬ openName <:+: t

instance (t : Text) : Decidable (IsPlain t) :=
  decidable_of_iff (nul ∉ t ∧ t.has openName = false)
    (by simp only [IsPlain, ← has_eq_true_iff, Bool.not_eq_true])

theorem IsPlain.not_hasFalseMark {t : Text} (h : IsPlain t) : ¬ HasFalseMark t := by
  rintro ⟨e, -, hinfix⟩
  refine h.2 (List.IsInfix.trans ⟨closeEscape, e, ?_⟩ hinfix)
  rw [List.append_assoc]

theorem IsPlain.of_suffix {t u : Text} (h : IsPlain t) (hs : u <:+ t) : IsPlain u :=
  ⟨fun hm => h.1 (hs.mem hm), fun hi => h.2 (hi.trans hs.isInfix)⟩

/-- A code point outside the marks sets plain texts apart. -/
theorem isPlain_append_cons_iff {x : CodePoint} (hn : nul ≠ x) (hx : x ∉ openName) {u v : Text} :
    IsPlain (u ++ x :: v) ↔ IsPlain u ∧ IsPlain v := by
  simp only [IsPlain, infix_append_cons_iff hx, List.mem_append, List.mem_cons, hn, false_or, not_or]
  tauto

/-! ### Restoring a protected text -/

theorem restore_protect_of_not_hasFalseMark {t : Text} (hn : nul ∉ t) (hf : ¬ HasFalseMark t) :
    restore (protect t) = t := by
  rw [restore_eq_unmark]
  induction t using escape_induction with
  | nil => rfl
  | opening t ih =>
    have ht : nul ∉ t := fun hm => hn (List.mem_append_right _ hm)
    rw [hasFalseMark_openEscape_append_iff] at hf
    rw [protect_openEscape_append, unmark_openMark_append (by decide), ih ht hf]
  | closing t ih =>
    have ht : nul ∉ t := fun hm => hn (List.mem_append_right _ hm)
    rw [hasFalseMark_closeEscape_append_iff, not_or] at hf
    have hname : ¬ openName ++ [nul] <+: protect t := mt (openName_nul_prefix_protect_iff ht).mp hf.1
    rw [protect_closeEscape_append, unmark_closeMark_append hname, ih ht hf.2]
  | literal c t ho hc ih =>
    obtain ⟨hcn, ht⟩ := List.ne_and_not_mem_of_not_mem_cons hn
    rw [hasFalseMark_cons_iff hc] at hf
    rw [protect_cons ho hc, unmark_cons hcn, ih ht hf]

/-- After a name that reads as a mark, a NUL is left over. -/
theorem nul_mem_restore_protect {t : Text} (hn : nul ∉ t) (hf : HasFalseMark t) :
    nul ∈ restore (protect t) := by
  rw [restore_eq_unmark]
  induction t using escape_induction with
  | nil => simp [HasFalseMark, openEscape, closeEscape] at hf
  | opening t ih =>
    have ht : nul ∉ t := fun hm => hn (List.mem_append_right _ hm)
    rw [hasFalseMark_openEscape_append_iff] at hf
    rw [protect_openEscape_append, unmark_openMark_append (by decide)]
    exact List.mem_append_right _ (ih ht hf)
  | closing t ih =>
    have ht : nul ∉ t := fun hm => hn (List.mem_append_right _ hm)
    rw [hasFalseMark_closeEscape_append_iff, ← openName_nul_prefix_protect_iff ht] at hf
    rw [protect_closeEscape_append]
    by_cases hname : openName ++ [nul] <+: protect t
    · exact nul_mem_unmark_closeMark_append (by decide) (by decide) hname
    · rw [unmark_closeMark_append hname]
      exact List.mem_append_right _ (ih ht (hf.resolve_left hname))
  | literal c t ho hc ih =>
    obtain ⟨hcn, ht⟩ := List.ne_and_not_mem_of_not_mem_cons hn
    rw [hasFalseMark_cons_iff hc] at hf
    rw [protect_cons ho hc, unmark_cons hcn]
    exact List.mem_cons_of_mem _ (ih ht hf)

/-- **A template without NUL comes back from its protected form** exactly when no name in it reads as a
mark. -/
theorem restore_protect_eq_iff {t : Text} (hn : nul ∉ t) :
    restore (protect t) = t ↔ ¬ HasFalseMark t := by
  refine ⟨fun h hf => ?_, restore_protect_of_not_hasFalseMark hn⟩
  exact hn (h ▸ nul_mem_restore_protect hn hf)

/-- Behind an opening escape, or before no escape, the name does no harm. -/
theorem restore_protect_openName :
    let t : Text := openEscape ++ openName ++ closeEscape ++ openName
    nul ∉ t ∧ ¬ HasFalseMark t ∧ restore (protect t) = t := by
  intro t
  exact ⟨by decide, by decide, (restore_protect_eq_iff (by decide)).mpr (by decide)⟩

/-- Between two closing escapes it reads as a mark. -/
theorem restore_protect_ne_of_openName :
    nul ∉ closeEscape ++ openName ++ closeEscape ∧
      restore (protect (closeEscape ++ openName ++ closeEscape)) ≠
        closeEscape ++ openName ++ closeEscape := by
  decide

end PromptTemplate.Escape
