import PromptTemplate.Proofs.Template.Filling

/-!
# Protected texts

A text in which neither escape stands anywhere is protected (`IsProtected`). What `protect` gives is
protected, and on protected texts it undoes `restore` (`protect_restore`), also where a NUL or the name
of a mark stands by itself. The other way round it need not: a text that holds the marks themselves
gets escapes in their place and is another one from then on.

Whether a text with a token in it is protected depends on what stands before and behind the token only
(`isProtected_append_token_iff`).
-/

namespace PromptTemplate.Escape

open Text

/-- Neither escape stands anywhere in the text. -/
def IsProtected (t : Text) : Prop := ¬ openEscape <:+: t ∧ ¬ closeEscape <:+: t

instance (t : Text) : Decidable (IsProtected t) :=
  decidable_of_iff (t.has openEscape = false ∧ t.has closeEscape = false)
    (by simp only [IsProtected, ← has_eq_true_iff, Bool.not_eq_true])

/-! ### Where an escape can begin -/

theorem isProtected_append_iff_of_notMem {u t : Text} (hu : backslash ∉ u) :
    IsProtected (u ++ t) ↔ IsProtected t := by
  unfold IsProtected
  rw [infix_append_iff_of_notMem rfl hu, infix_append_iff_of_notMem rfl hu]

theorem isProtected_cons_iff {c : CodePoint} {t : Text} :
    IsProtected (c :: t) ↔ ¬ openEscape <+: c :: t ∧ ¬ closeEscape <+: c :: t ∧ IsProtected t := by
  simp only [IsProtected, List.infix_cons_iff, not_or]
  tauto

theorem isProtected_protect (t : Text) : IsProtected (protect t) := by
  induction t using escape_induction with
  | nil => decide
  | opening t ih => rwa [protect_openEscape_append, isProtected_append_iff_of_notMem (by decide)]
  | closing t ih => rwa [protect_closeEscape_append, isProtected_append_iff_of_notMem (by decide)]
  | literal c t ho hc ih =>
    have hkeep : ∀ e ∈ [openEscape, closeEscape], e <+: protect (c :: t) → e <+: c :: t := by
      intro e he
      refine prefix_of_prefix_protect ?_
      rcases List.mem_pair.mp he with rfl | rfl <;> decide
    rw [protect_cons ho hc] at hkeep ⊢
    exact isProtected_cons_iff.mpr
      ⟨fun h => ho (hkeep _ (by simp) h), fun h => hc (hkeep _ (by simp) h), ih⟩

/-! ### Restoring and protecting again -/

/-- Text that is no mark at its head keeps its first code point. -/
theorem restore_cons {c : CodePoint} {t : Text} (ho : ¬ openMark <+: c :: t)
    (hc : ¬ closeMark <+: c :: t) : restore (c :: t) = c :: restore t := by
  have hopen := replace_cons_of_not (r := openEscape) ho
  have hclose : ¬ closeMark <+: c :: replace t openMark openEscape := fun h =>
    hc (prefix_of_prefix_replace (by decide) (n := backslash) rfl (by decide) (hopen ▸ h))
  unfold restore
  rw [hopen, replace_cons_of_not hclose]

/-- A closing mark whose second NUL begins an opening mark is no mark: only the opening one is restored. -/
theorem restore_closeMark_openName (t : Text) :
    restore (closeMark ++ (openName ++ [nul] ++ t)) = nul :: (closeName ++ restore (openMark ++ t)) := by
  have hopen : replace (closeMark ++ (openName ++ [nul] ++ t)) openMark openEscape =
      nul :: (closeName ++ replace (openMark ++ t) openMark openEscape) := by
    rw [replace_closeMark_append, openMark_eq]
    simp
  have hclose : ¬ closeMark <+: nul :: (closeName ++ replace (openMark ++ t) openMark openEscape) := by
    rw [replace_append_self (by decide), closeMark_eq, List.cons_prefix_cons, List.prefix_append_right_inj]
    simp [openEscape]
  unfold restore
  rw [hopen, replace_cons_of_not hclose, replace_append_of_notMem (x := nul) rfl (by decide)]

theorem prefix_of_prefix_restore {y t : Text} (hy : backslash ∉ y) (h : y <+: restore t) : y <+: t := by
  have h' : y <+: replace t openMark openEscape :=
    prefix_of_prefix_replace (by decide) (n := backslash) rfl hy h
  exact prefix_of_prefix_replace (by decide) (n := backslash) rfl hy h'

/-- **Protecting undoes restoring** on protected texts. -/
theorem protect_restore {t : Text} (h : IsProtected t) : protect (restore t) = t := by
  induction t using piece_induction with
  | nil => rfl
  | step t ht =>
    by_cases ho : openMark <+: t
    · obtain ⟨u, rfl⟩ := ho
      refine ⟨openMark, u, by decide, rfl, fun ih h => ?_⟩
      rw [isProtected_append_iff_of_notMem (by decide)] at h
      rw [restore_eq_unmark, unmark_openMark_append (by decide), ← restore_eq_unmark,
        protect_openEscape_append, ih h]
    by_cases hc : closeMark <+: t
    · obtain ⟨u, rfl⟩ := hc
      by_cases hname : openName ++ [nul] <+: u
      · -- the two marks share a NUL, and the opening one has it
        obtain ⟨v, rfl⟩ := hname
        have hshare : closeMark ++ (openName ++ [nul] ++ v) = (nul :: closeName) ++ (openMark ++ v) := by
          rw [closeMark_eq, openMark_eq]
          simp
        refine ⟨nul :: closeName, openMark ++ v, by simp, hshare.symm, fun ih h => ?_⟩
        rw [hshare, isProtected_append_iff_of_notMem (by decide)] at h
        rw [restore_closeMark_openName, hshare, ← List.cons_append,
          protect_append_of_notMem (by decide), ih h]
      · refine ⟨closeMark, u, by decide, rfl, fun ih h => ?_⟩
        rw [isProtected_append_iff_of_notMem (by decide)] at h
        rw [restore_eq_unmark, unmark_closeMark_append hname, ← restore_eq_unmark,
          protect_closeEscape_append, ih h]
    · obtain ⟨c, u, rfl⟩ := List.exists_cons_of_ne_nil ht
      refine ⟨[c], u, by simp, rfl, fun ih h => ?_⟩
      obtain ⟨hno, hnc, hu⟩ := isProtected_cons_iff.mp h
      have hkeep : ∀ y, backslash ∉ y → c :: y <+: c :: restore u → c :: y <+: c :: u := fun y hy hp =>
        List.cons_prefix_cons.mpr ⟨rfl, prefix_of_prefix_restore hy (List.cons_prefix_cons.mp hp).2⟩
      have hhead : ∀ y, backslash ∉ y → ¬ backslash :: y <+: c :: u →
          ¬ backslash :: y <+: c :: restore u := by
        intro y hy hn hp
        obtain rfl := (List.cons_prefix_cons.mp hp).1
        exact hn (hkeep y hy hp)
      rw [restore_cons ho hc, protect_cons (hhead _ (by decide) hno) (hhead _ (by decide) hnc), ih hu]

/-- A protected text has nothing to protect. -/
theorem protect_of_isProtected {t : Text} (h : IsProtected t) : protect t = t := by
  induction t with
  | nil => rfl
  | cons c t ih =>
    obtain ⟨ho, hc, ht⟩ := isProtected_cons_iff.mp h
    rw [protect_cons ho hc, ih ht]

/-- **Protected texts are normal forms.** Protecting gives one of them and leaves each of them as it is,
and from a restored one it comes back to it, so restoring loses no protected text. -/
theorem protect_normal :
    (∀ s, IsProtected s → protect (restore s) = s) ∧
    (∀ t, IsProtected (protect t)) ∧
    ∀ t, protect (restore (protect t)) = protect t ∧ protect (protect t) = protect t :=
  ⟨fun _ h => protect_restore h, isProtected_protect, fun t =>
    ⟨protect_restore (isProtected_protect t), protect_of_isProtected (isProtected_protect t)⟩⟩

/-- Two closing marks with the name between them, which reads as an opening mark: they are restored to
another text than they came from, and to one with the same protected form. -/
theorem protect_normal_openName :
    let t : Text := closeEscape ++ openName ++ closeEscape
    let s : Text := closeMark ++ openName ++ closeMark
    protect t = s ∧ restore s ≠ t ∧ IsProtected s ∧ protect (restore s) = s := by
  intro t s
  exact ⟨by decide, by decide, by decide, protect_normal.1 s (by decide)⟩

/-! ### A token in a protected text -/

variable {bare : Bool}

/-- An escape reaches no further into a token than its opening braces. -/
theorem escape_infix_append_token_iff {e : Text} (he : e ∈ [openEscape, closeEscape]) {k : Token}
    (hk : k.Spelled bare) (u v : Text) :
    e <:+: u ++ (k.raw ++ v) ↔ e <:+: u ++ openBraces ∨ e <:+: v := by
  obtain ⟨body, hraw, -⟩ := hk.isToken.exists_inner
  have hlen : e.length = 3 := by rcases List.mem_pair.mp he with rfl | rfl <;> rfl
  have hopen : ¬ e <:+: openBraces := fun h => by
    have := h.length_le
    simp [openBraces, hlen] at this
  induction u with
  | nil =>
    rw [List.nil_append, List.nil_append,
      infix_append_iff_of_notMem (head?_escape he) hk.backslash_notMem]
    exact (or_iff_right hopen).symm
  | cons c u ih =>
    have hpre : e <+: c :: (u ++ (k.raw ++ v)) ↔ e <+: c :: (u ++ openBraces) := by
      have happ : c :: (u ++ (k.raw ++ v)) = c :: (u ++ openBraces) ++ (body ++ closeBraces ++ v) := by
        rw [hraw]
        simp
      rw [happ]
      refine ⟨fun h => List.prefix_of_prefix_length_le h (List.prefix_append _ _) ?_,
        fun h => h.trans (List.prefix_append _ _)⟩
      simp [hlen, openBraces]
    rw [List.cons_append, List.cons_append, List.infix_cons_iff, List.infix_cons_iff, hpre, or_assoc]
    exact or_congr_right ih

theorem isProtected_append_token_iff {k : Token} (hk : k.Spelled bare) (u v : Text) :
    IsProtected (u ++ (k.raw ++ v)) ↔ IsProtected (u ++ openBraces) ∧ IsProtected v := by
  unfold IsProtected
  rw [escape_infix_append_token_iff (by simp) hk, escape_infix_append_token_iff (by simp) hk]
  tauto

end PromptTemplate.Escape
