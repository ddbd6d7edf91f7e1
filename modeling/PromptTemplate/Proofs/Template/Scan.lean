import PromptTemplate.Proofs.Template.Filling

/-!
# Resolving in one scan

Resolving protects the escapes of a template, cuts it at its tokens, and takes the marks out of every
literal part. None of this shows: the result is that of one scan of the raw template from the left
(`scan`), which knows no marks and looks at nothing but the head of what is left (`resolve_eq_scan`).
Only a NUL in the template itself, or a name that reads as a mark, could tell the two apart.
-/

namespace PromptTemplate.Template

open Text Escape

/-- The scan of a template after `skip` more of its code points. An escape becomes the braces it stands
for, a token its value, and any other code point stays. -/
def scanFrom (s : Snapshot) (bare : Bool) : Nat → Text → Text
  | _, [] => []
  | skip + 1, _ :: t => scanFrom s bare skip t
  | 0, c :: t =>
    if openEscape.isPrefixOf (c :: t) then openBraces ++ scanFrom s bare 2 t
    else if closeEscape.isPrefixOf (c :: t) then closeBraces ++ scanFrom s bare 2 t
    else
      match Token.at? bare (c :: t) with
      | some k => (Resolution.ofToken s k).value ++ scanFrom s bare (k.raw.length - 1) t
      | none => c :: scanFrom s bare 0 t

/-- One scan of a raw template from the left. -/
def scan (s : Snapshot) (bare : Bool) (t : Text) : Text := scanFrom s bare 0 t

variable {s : Snapshot} {bare : Bool}

/-! ### The steps of the scan -/

theorem scanFrom_eq (skip : Nat) (t : Text) : scanFrom s bare skip t = scan s bare (t.drop skip) := by
  induction skip generalizing t with
  | zero => rfl
  | succ n ih =>
    cases t with
    | nil => rfl
    | cons c t => rw [scanFrom, ih, List.drop_succ_cons]

theorem scan_openEscape_append (t : Text) :
    scan s bare (openEscape ++ t) = openBraces ++ scan s bare t := by
  simp [scan, openEscape, scanFrom]

theorem scan_closeEscape_append (t : Text) :
    scan s bare (closeEscape ++ t) = closeBraces ++ scan s bare t := by
  simp [scan, openEscape, closeEscape, scanFrom]

theorem scan_append_token {k : Token} (hk : k.Spelled bare) (t : Text) :
    scan s bare (k.raw ++ t) = (Resolution.ofToken s k).value ++ scan s bare t := by
  have hat := Token.at?_eq_some_of_spelled hk t
  obtain ⟨body, hraw, -⟩ := hk.isToken.exists_inner
  obtain ⟨r, hr⟩ : ∃ r, k.raw = .char '{' :: r := ⟨_, hraw⟩
  have hskip : scanFrom s bare (k.raw.length - 1) (r ++ t) = scan s bare t := by
    rw [scanFrom_eq, hr, List.length_cons, Nat.add_sub_cancel, List.drop_left]
  rw [hr, List.cons_append] at hat
  rw [hr, List.cons_append, scan, scanFrom, hat]
  simp [openEscape, closeEscape, hskip]

theorem scan_cons {c : CodePoint} {t : Text} (ho : ¬ openEscape <+: c :: t)
    (hc : ¬ closeEscape <+: c :: t) (h : Token.at? bare (c :: t) = none) :
    scan s bare (c :: t) = c :: scan s bare t := by
  rw [← List.isPrefixOf_iff_prefix] at ho hc
  rw [scan, scanFrom, if_neg ho, if_neg hc, h]
  rfl

/-- Induction along the scan: an escape or a token at the head of the text, or a code point that begins
neither. -/
theorem template_induction (bare : Bool) {P : Text → Prop} (nil : P [])
    (opening : ∀ t, P t → P (openEscape ++ t)) (closing : ∀ t, P t → P (closeEscape ++ t))
    (token : ∀ (k : Token) t, k.Spelled bare → P t → P (k.raw ++ t))
    (literal : ∀ c t, ¬ openEscape <+: c :: t → ¬ closeEscape <+: c :: t →
      Token.at? bare (c :: t) = none → P t → P (c :: t)) (t : Text) : P t := by
  refine escape_piece_induction nil opening closing (fun t ht ho hc => ?_) t
  cases hk : Token.at? bare t with
  | some k =>
    obtain ⟨hspell, u, rfl⟩ := Token.at?_eq_some_iff.mp hk
    exact ⟨k.raw, u, hspell.isToken.ne_nil, rfl, token k u hspell⟩
  | none =>
    obtain ⟨c, u, rfl⟩ := List.exists_cons_of_ne_nil ht
    exact ⟨[c], u, by simp, rfl, literal c u ho hc hk⟩

/-! ### Texts scanned apart -/

/-- Text without an opening brace and without a backslash stays as it is. -/
theorem scan_append_of_notMem {u : Text} (ho : .char '{' ∉ u) (hb : backslash ∉ u) (t : Text) :
    scan s bare (u ++ t) = u ++ scan s bare t := by
  induction u with
  | nil => rfl
  | cons c u ih =>
    obtain ⟨hco, hu⟩ := List.ne_and_not_mem_of_not_mem_cons ho
    obtain ⟨hcb, hub⟩ := List.ne_and_not_mem_of_not_mem_cons hb
    have hescape : ∀ e ∈ [openEscape, closeEscape], ¬ e <+: c :: (u ++ t) := fun e he h => by
      obtain ⟨q, rfl⟩ := List.head?_eq_some_iff.mp (head?_escape he)
      exact hcb (List.cons_prefix_cons.mp h).1
    rw [List.cons_append, scan_cons (hescape _ (by simp)) (hescape _ (by simp))
      (Token.at?_cons_eq_none hco.symm _), ih hu hub]
    rfl

/-- **Two texts are scanned apart** when neither an escape nor a token begins in the first and ends in the
second. -/
theorem scan_append {u v : Text} (hseam : Seam u v)
    (htoken : ∀ w, w <:+ u → w ≠ [] → Token.at? bare (w ++ v) = Token.at? bare w) :
    scan s bare (u ++ v) = scan s bare u ++ scan s bare v := by
  induction u using template_induction bare with
  | nil => rfl
  | opening u ih =>
    have hu := List.suffix_append openEscape u
    rw [List.append_assoc, scan_openEscape_append, ih (hseam.of_suffix hu) fun w hw =>
      htoken w (hw.trans hu), scan_openEscape_append, List.append_assoc]
  | closing u ih =>
    have hu := List.suffix_append closeEscape u
    rw [List.append_assoc, scan_closeEscape_append, ih (hseam.of_suffix hu) fun w hw =>
      htoken w (hw.trans hu), scan_closeEscape_append, List.append_assoc]
  | token k u hk ih =>
    have hu := List.suffix_append k.raw u
    rw [List.append_assoc, scan_append_token hk, ih (hseam.of_suffix hu) fun w hw =>
      htoken w (hw.trans hu), scan_append_token hk, List.append_assoc]
  | literal c u ho hc hk ih =>
    have hu := List.suffix_cons c u
    have hcu := hseam (c :: u) (List.suffix_refl _) (by simp)
    have ho' : ¬ openEscape <+: c :: (u ++ v) := fun h => ho (hcu _ (by simp) h)
    have hc' : ¬ closeEscape <+: c :: (u ++ v) := fun h => hc (hcu _ (by simp) h)
    have hk' : Token.at? bare (c :: (u ++ v)) = none :=
      (htoken (c :: u) (List.suffix_refl _) (by simp)).trans hk
    rw [List.cons_append, scan_cons ho' hc' hk', ih (hseam.of_suffix hu) fun w hw =>
      htoken w (hw.trans hu), scan_cons ho hc hk]
    rfl

/-- Neither an escape nor a token reaches as far as a backslash. -/
theorem scan_append_backslash (u v : Text) :
    scan s bare (u ++ backslash :: v) = scan s bare u ++ scan s bare (backslash :: v) := by
  apply scan_append (seam_backslash u v)
  intro w _ _
  exact match?_append_cons (fun _ _ => Token.at?_eq_some_iff) (fun _ hk => hk.backslash_notMem) w v

/-! ### The two ways agree -/

theorem fill_protect_eq_scan {t : Text} (hn : nul ∉ t) (hf : ¬ HasFalseMark t) :
    fill s bare (protect t) = scan s bare t := by
  induction t using template_induction bare with
  | nil => rfl
  | opening t ih =>
    have ih := ih (fun h => hn (List.mem_append_right _ h)) (fun h => hf (h.append_left _))
    rw [protect_openEscape_append, fill_openMark_append, ih, scan_openEscape_append]
  | closing t ih =>
    have hnt : nul ∉ t := fun h => hn (List.mem_append_right _ h)
    have ih := ih hnt (fun h => hf (h.append_left _))
    rw [hasFalseMark_closeEscape_append_iff, not_or] at hf
    have hname : ¬ openName ++ [nul] <+: protect t := mt (openName_nul_prefix_protect_iff hnt).mp hf.1
    rw [protect_closeEscape_append, fill_closeMark_append hname, ih, scan_closeEscape_append]
  | token k t hk ih =>
    have ih := ih (fun h => hn (List.mem_append_right _ h)) (fun h => hf (h.append_left _))
    rw [protect_append_of_notMem hk.backslash_notMem, fill_append_token hk, ih, scan_append_token hk]
  | literal c t ho hc hk ih =>
    obtain ⟨hcn, hnt⟩ := List.ne_and_not_mem_of_not_mem_cons hn
    have ih := ih hnt (fun h => hf (h.append_left [c]))
    have hk' : Token.at? bare (c :: protect t) = none := by
      rw [← protect_cons ho hc, Token.at?_protect, hk]
    rw [protect_cons ho hc, fill_cons hcn hk', ih, scan_cons ho hc hk]

theorem resolve_eq_scan_of_isPlain {t : Text} (ht : IsPlain t) (s : Snapshot) (bare : Bool) :
    resolve t s bare = scan s bare t :=
  (resolve_eq_fill t s bare).trans (fill_protect_eq_scan ht.1 ht.not_hasFalseMark)

/-- **The marks do not show.** A template is resolved as one scan of its raw text resolves it, unless it
holds a NUL or a closing escape with the name `ESC_OPEN` and a backslash behind it. -/
theorem resolve_eq_scan {t : Text} (s : Snapshot) (bare : Bool) (hn : nul ∉ t)
    (hf : ¬ closeEscape ++ openName ++ [backslash] <:+: t) : resolve t s bare = scan s bare t := by
  rw [resolve_eq_fill]
  refine fill_protect_eq_scan hn ?_
  rintro ⟨e, he, h⟩
  obtain ⟨q, rfl⟩ := List.head?_eq_some_iff.mp (head?_escape he)
  refine hf (List.IsInfix.trans ⟨[], q, ?_⟩ h)
  simp

/-- A name behind a closing escape, and a value that looks like an escape and a token. -/
theorem resolve_eq_scan_openName :
    let value : Text := closeEscape ++ TokenKind.field.token "b"
    let t : Text := closeEscape ++ openName ++ TokenKind.field.token "a" ++ openEscape
    let s : Snapshot := { fields := [{ key := "a", label := "A", value := some value, sectionId := "x" }] }
    nul ∉ t ∧ (¬ closeEscape ++ openName ++ [backslash] <:+: t) ∧ resolve t s true = scan s true t ∧
      scan s true t = closeBraces ++ openName ++ value ++ openBraces := by
  intro value t s
  have hf : ¬ closeEscape ++ openName ++ [backslash] <:+: t := fun h =>
    absurd (has_eq_true_iff.mpr h) (by decide)
  exact ⟨by decide, hf, resolve_eq_scan s true (by decide) hf, by decide⟩

end PromptTemplate.Template
