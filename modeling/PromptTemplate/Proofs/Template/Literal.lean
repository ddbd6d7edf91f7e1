import PromptTemplate.Diagnostic
import PromptTemplate.Proofs.Template.Insertion
import PromptTemplate.Proofs.Template.Scan
import PromptTemplate.Proofs.Template.Shapes

/-!
# Templates for literal text

Any text can be written as a template: a backslash goes before each of its pairs of braces
(`escapeBraces`). No pair of braces is left without a backslash (`not_braces_infix_protect`), so the new
template has no tokens and nothing is wrong with its syntax, and it is resolved by taking the backslashes out
again (`literal_of_isPlain`). Like every template it must be without NUL and the name of a mark.
-/

namespace PromptTemplate

open Text Escape

namespace Escape

/-- A template for a text: its pairs of braces escaped, the opening ones first. -/
def escapeBraces (t : Text) : Text :=
  (t.replace openBraces openEscape).replace closeBraces closeEscape

/-! ### The steps of `escapeBraces` -/

theorem escapeBraces_openBraces_append (t : Text) :
    escapeBraces (openBraces ++ t) = openEscape ++ escapeBraces t := by
  unfold escapeBraces
  rw [replace_append_self (by decide), replace_append_of_notMem (x := .char '}') rfl (by decide)]

theorem escapeBraces_closeBraces_append (t : Text) :
    escapeBraces (closeBraces ++ t) = closeEscape ++ escapeBraces t := by
  unfold escapeBraces
  rw [replace_append_of_notMem (x := .char '{') rfl (by decide), replace_append_self (by decide)]

theorem escapeBraces_cons {c : CodePoint} {t : Text} (ho : ¬ openBraces <+: c :: t)
    (hc : ¬ closeBraces <+: c :: t) : escapeBraces (c :: t) = c :: escapeBraces t := by
  have hopen := replace_cons_of_not (r := openEscape) ho
  have hclose : ¬ closeBraces <+: c :: replace t openBraces openEscape := fun h =>
    hc (prefix_of_prefix_replace (by decide) (n := backslash) rfl (by decide) (hopen ▸ h))
  unfold escapeBraces
  rw [hopen, replace_cons_of_not hclose]

/-- Induction along a text: a pair of braces at its head, or a code point that begins none. -/
theorem brace_induction {P : Text → Prop} (nil : P []) (opening : ∀ t, P t → P (openBraces ++ t))
    (closing : ∀ t, P t → P (closeBraces ++ t))
    (literal : ∀ c t, ¬ openBraces <+: c :: t → ¬ closeBraces <+: c :: t → P t → P (c :: t))
    (t : Text) : P t := by
  refine piece_induction nil (fun t ht => ?_) t
  by_cases ho : openBraces <+: t
  · obtain ⟨u, rfl⟩ := ho
    exact ⟨openBraces, u, by decide, rfl, opening u⟩
  by_cases hc : closeBraces <+: t
  · obtain ⟨u, rfl⟩ := hc
    exact ⟨closeBraces, u, by decide, rfl, closing u⟩
  obtain ⟨c, u, rfl⟩ := List.exists_cons_of_ne_nil ht
  exact ⟨[c], u, by simp, rfl, literal c u ho hc⟩

/-! ### What is left of the braces -/

/-- Text without backslashes at the head of the template was at the head of the text. -/
theorem prefix_of_prefix_escapeBraces {y t : Text} (hb : backslash ∉ y) (h : y <+: escapeBraces t) :
    y <+: t := by
  have hopen : y <+: replace t openBraces openEscape :=
    prefix_of_prefix_replace (by decide) (n := backslash) rfl hb h
  exact prefix_of_prefix_replace (by decide) (n := backslash) rfl hb hopen

/-- The template does not begin with a pair of braces. -/
theorem not_braces_prefix_escapeBraces {p : Text} (hp : p ∈ [openBraces, closeBraces]) (t : Text) :
    ¬ p <+: escapeBraces t := by
  intro h
  rcases List.mem_pair.mp hp with rfl | rfl
  · obtain ⟨u, rfl⟩ := prefix_of_prefix_escapeBraces (by decide) h
    rw [escapeBraces_openBraces_append] at h
    exact absurd (List.cons_prefix_cons.mp h).1 (by decide)
  · obtain ⟨u, rfl⟩ := prefix_of_prefix_escapeBraces (by decide) h
    rw [escapeBraces_closeBraces_append] at h
    exact absurd (List.cons_prefix_cons.mp h).1 (by decide)

/-- A backslash of the text makes no escape with what comes after it in the template. -/
theorem not_escape_prefix_cons_escapeBraces {e : Text} (he : e ∈ [openEscape, closeEscape]) (c : CodePoint)
    (t : Text) : ¬ e <+: c :: escapeBraces t := by
  intro h
  rcases List.mem_pair.mp he with rfl | rfl
  · exact not_braces_prefix_escapeBraces (p := openBraces) (by simp) t (List.cons_prefix_cons.mp h).2
  · exact not_braces_prefix_escapeBraces (p := closeBraces) (by simp) t (List.cons_prefix_cons.mp h).2

theorem protect_cons_escapeBraces (c : CodePoint) (t : Text) :
    protect (c :: escapeBraces t) = c :: protect (escapeBraces t) :=
  protect_cons (not_escape_prefix_cons_escapeBraces (by simp) c t)
    (not_escape_prefix_cons_escapeBraces (by simp) c t)

/-- **No pair of braces is left** in the protected template. -/
theorem not_braces_infix_protect {p : Text} (hp : p ∈ [openBraces, closeBraces]) (t : Text) :
    ¬ p <:+: protect (escapeBraces t) := by
  have hmark : ∀ m ∈ [openMark, closeMark], ∀ u, p <:+: m ++ u ↔ p <:+: u := by
    intro m hm u
    rcases List.mem_pair.mp hp with rfl | rfl <;> rcases List.mem_pair.mp hm with rfl | rfl <;>
      exact infix_append_iff_of_notMem rfl (by decide)
  have hplain : nul ∉ p := by rcases List.mem_pair.mp hp with rfl | rfl <;> decide
  induction t using brace_induction with
  | nil => rcases List.mem_pair.mp hp with rfl | rfl <;> simp [escapeBraces, openBraces, closeBraces]
  | opening t ih => rwa [escapeBraces_openBraces_append, protect_openEscape_append, hmark _ (by simp)]
  | closing t ih => rwa [escapeBraces_closeBraces_append, protect_closeEscape_append, hmark _ (by simp)]
  | literal c t ho hc ih =>
    have hpre : ¬ p <+: protect (escapeBraces (c :: t)) := fun h =>
      not_braces_prefix_escapeBraces hp _ (prefix_of_prefix_protect hplain h)
    rw [escapeBraces_cons ho hc, protect_cons_escapeBraces] at hpre ⊢
    rw [List.infix_cons_iff]
    exact not_or.mpr ⟨hpre, ih⟩

/-- The template is as plain as the text. -/
theorem IsPlain.escapeBraces {t : Text} (h : IsPlain t) : IsPlain (escapeBraces t) := by
  have hskip : ∀ e ∈ [openEscape, closeEscape], ∀ u, IsPlain u → IsPlain (e ++ u) := by
    intro e he u hu
    have hnotMem : nul ∉ e ∧ CodePoint.char 'E' ∉ e := by
      rcases List.mem_pair.mp he with rfl | rfl <;> decide
    refine ⟨fun hm => (List.mem_append.mp hm).elim hnotMem.1 hu.1, fun hi => hu.2 ?_⟩
    exact (infix_append_iff_of_notMem (b := .char 'E') rfl hnotMem.2).mp hi
  induction t using brace_induction with
  | nil => exact h
  | opening t ih =>
    rw [escapeBraces_openBraces_append]
    exact hskip _ (by simp) _ (ih (h.of_suffix (List.suffix_append _ t)))
  | closing t ih =>
    rw [escapeBraces_closeBraces_append]
    exact hskip _ (by simp) _ (ih (h.of_suffix (List.suffix_append _ t)))
  | literal c t ho hc ih =>
    have ht := ih (h.of_suffix (List.suffix_cons c t))
    have hpre : ¬ openName <+: Escape.escapeBraces (c :: t) := fun hp =>
      h.2 (prefix_of_prefix_escapeBraces (by decide) hp).isInfix
    rw [escapeBraces_cons ho hc] at hpre ⊢
    refine ⟨fun hm => ?_, fun hi => ?_⟩
    · rcases List.mem_cons.mp hm with rfl | hm
      · exact h.1 (List.mem_cons_self ..)
      · exact ht.1 hm
    · exact (List.infix_cons_iff.mp hi).elim hpre ht.2

end Escape

namespace Template

variable {bare : Bool} {s : Snapshot}

/-- Reading the template takes the backslashes out again. -/
theorem scan_escapeBraces (t : Text) : scan s bare (escapeBraces t) = t := by
  induction t using brace_induction with
  | nil => rfl
  | opening t ih => rw [escapeBraces_openBraces_append, scan_openEscape_append, ih]
  | closing t ih => rw [escapeBraces_closeBraces_append, scan_closeEscape_append, ih]
  | literal c t ho hc ih =>
    have hnone : Token.at? bare (c :: escapeBraces t) = none := by
      refine Option.eq_none_iff_forall_ne_some.mpr fun k hk => ?_
      have hpre := Token.openBraces_prefix_of_at? hk
      rw [← escapeBraces_cons ho hc] at hpre
      exact not_braces_prefix_escapeBraces (by simp) _ hpre
    rw [escapeBraces_cons ho hc, scan_cons (not_escape_prefix_cons_escapeBraces (by simp) c t)
      (not_escape_prefix_cons_escapeBraces (by simp) c t) hnone, ih]

/-- **Any plain text can be written as a template**, by escaping its pairs of braces: there is nothing to
mend, the template resolves to the text, and no token gave nothing. -/
theorem literal_of_isPlain {t : Text} (ht : IsPlain t) (s : Snapshot) (bare : Bool) :
    (Validation.ofTemplate (escapeBraces t) s bare).isValid = true ∧
      (Validation.ofTemplate (escapeBraces t) s bare).errors = [] ∧
      resolve (escapeBraces t) s bare = t ∧
      resolveWithTokens (escapeBraces t) s bare = ⟨t, [], []⟩ := by
  have hopen := not_braces_infix_protect (p := openBraces) (by simp) t
  have hclose := not_braces_infix_protect (p := closeBraces) (by simp) t
  have hhits : (cut bare (protect (escapeBraces t))).hits = [] :=
    hits_cut_eq_nil (fun _ _ => Token.openBraces_prefix_of_at?) hopen
  have hnone : occurrences bare (protect (escapeBraces t)) = [] := by
    rw [← List.map_eq_nil_iff, map_token_occurrences, hhits]
  have herrors : (Validation.ofTemplate (escapeBraces t) s bare).errors = [] := by
    rw [Validation.ofTemplate, SyntaxCheck.faults_eq_nil hopen hclose, hnone]
    rfl
  have hresolve : resolve (escapeBraces t) s bare = t := by
    rw [resolve_eq_scan_of_isPlain ht.escapeBraces, scan_escapeBraces]
  refine ⟨?_, herrors, hresolve, ?_⟩
  · rw [Validation.isValid, herrors]
    rfl
  · rw [resolveWithTokens_eq, hresolve, hhits]
    rfl

/-- A backslash before braces, odd runs of them, and a token. -/
theorem literal_of_isPlain_mixed :
    let k : Text := "field:x"
    let t : Text := openEscape ++ [.char '{', .char '}'] ++ closeBraces ++ (openBraces ++ k ++ closeBraces)
    let s : Snapshot := { fields := [{ key := "x", label := "X", value := some "1", sectionId := "y" }] }
    IsPlain t ∧
      escapeBraces t = [backslash] ++ openEscape ++ [.char '{'] ++ closeEscape ++ [.char '}'] ++
        (openEscape ++ k ++ closeEscape) ∧
      resolveWithTokens (escapeBraces t) s true = ⟨t, [], []⟩ := by
  intro k t s
  exact ⟨by decide, by decide, (literal_of_isPlain (by decide) s true).2.2.2⟩

end Template

end PromptTemplate
