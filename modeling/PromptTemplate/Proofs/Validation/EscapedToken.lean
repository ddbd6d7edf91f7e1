import PromptTemplate.Proofs.Template.Scan
import PromptTemplate.Proofs.Text.Pairs
import PromptTemplate.Proofs.Validation.Suggestion

/-!
# A token with its braces escaped

A backslash before either pair of braces turns a token into text. In the protected template two marks stand
around what was between the braces, and nothing can reach across a NUL: no token, no empty shape, no pair of
braces (`tokenErrors_append_marked`, `faults_append_marked`). Both counts of pairs are down by one, so the
braces are balanced as they were before. The template resolves as before with the token in place of its value,
and the diagnostic of the token, if there was one, is gone (`escapedToken_stands_for_itself`).
-/

namespace PromptTemplate

open Text Escape

variable {bare : Bool} {k : Token}

namespace SyntaxCheck

/-! ### The syntax across marks -/

theorem IsEmptyKeyword.nul_notMem {u : Text} (h : IsEmptyKeyword u) : nul ∉ u := by
  obtain ⟨w, blanks, ⟨kind, hkind⟩, hall, rfl⟩ := h
  have hbody := notMem_keyword_blanks hkind hall (b := nul) (by decide) (by decide) (by decide)
  intro hm
  refine hbody ?_
  simpa [openBraces, closeBraces] using hm

theorem IsEmptyBraces.nul_notMem {u : Text} (h : IsEmptyBraces u) : nul ∉ u := by
  obtain ⟨blanks, hall, rfl⟩ := h
  intro hm
  have hblank : nul ∈ blanks := by simpa [openBraces, closeBraces] using hm
  exact absurd (hall _ hblank) (by decide)

/-- A pattern of shapes finds around a block what it finds around a token. -/
theorem hits_cut_append_marked {match? : Text → Option Text} {Shape : Text → Prop}
    (hshape : ∀ x, Shape x → IsKeyless x) (hnul : ∀ x, Shape x → nul ∉ x)
    (hmatch : ∀ t x, match? t = some x ↔ Shape x ∧ x <+: t) (hk : k.Spelled bare) {m : Text}
    (ho : .char '{' ∉ nul :: m) (u v : Text) :
    (Text.cut match? id (u ++ (nul :: m ++ v))).hits = (Text.cut match? id (u ++ (k.raw ++ v))).hits := by
  have hhead : ∀ x, Shape x → (id x : Text).head? = some (.char '{') := fun x hx => by
    obtain ⟨body, rfl, -⟩ := hshape x hx
    rfl
  have hmarked : (Text.cut match? id (u ++ (nul :: m ++ v))).hits =
      (Text.cut match? id u).hits ++ (Text.cut match? id v).hits :=
    hits_cut_across_barrier hmatch hhead hnul ho u v
  exact hmarked.trans (hits_cut_append_token hshape hmatch hk u v).symm

/-- **The syntax of a text with a token** is that of the text with a block in its place that begins with NUL
and holds no brace: no shape is lost or found, and there is one pair of either kind less. -/
theorem faults_append_marked (hk : k.Spelled bare) {m : Text} (ho : .char '{' ∉ nul :: m)
    (hc : .char '}' ∉ nul :: m) (u v : Text) : faults (u ++ (nul :: m ++ v)) = faults (u ++ (k.raw ++ v)) := by
  have hshapes : emptyShapes (u ++ (nul :: m ++ v)) = emptyShapes (u ++ (k.raw ++ v)) := by
    rw [emptyShapes, emptyShapes,
      hits_cut_append_marked (fun _ => IsEmptyKeyword.isKeyless) (fun _ => IsEmptyKeyword.nul_notMem)
        (fun _ _ => emptyKeyword?_eq_some_iff) hk ho,
      hits_cut_append_marked (fun _ => IsEmptyBraces.isKeyless) (fun _ => IsEmptyBraces.nul_notMem)
        (fun _ _ => emptyBraces?_eq_some_iff) hk ho]
  obtain ⟨body, hraw, hne, hbody⟩ := hk.isToken.exists_inner
  have htoken : ∀ b : CodePoint, b.isInner = false → Text.count (u ++ (k.raw ++ v)) [b, b] =
      Text.count (u ++ openBraces) [b, b] + Text.count (closeBraces ++ v) [b, b] := by
    intro b hb
    rw [← count_append_inner hb hne hbody, hraw]
    simp only [List.append_assoc]
  have hopen : Text.count (u ++ (k.raw ++ v)) openBraces = u.count openBraces + 1 + v.count openBraces := by
    have hv : Text.count (closeBraces ++ v) openBraces = v.count openBraces := by
      have h := count_append_barrier (b := .char '{') (x := .char '}') (m := [.char '}']) (by decide) [] v
      exact h.trans (Nat.zero_add _)
    rw [openBraces, htoken _ (by decide), ← openBraces, hv]
    exact congrArg (· + _) (count_append_pair _ u)
  have hclose : Text.count (u ++ (k.raw ++ v)) closeBraces = u.count closeBraces + (v.count closeBraces + 1) := by
    have hu : Text.count (u ++ openBraces) closeBraces = u.count closeBraces := by
      have h := count_append_barrier (b := .char '}') (x := .char '{') (m := [.char '{']) (by decide) u []
      exact h
    rw [closeBraces, htoken _ (by decide), ← closeBraces, hu, count_append_self (by decide)]
  have hbalanced : isBalanced (u ++ (nul :: m ++ v)) = isBalanced (u ++ (k.raw ++ v)) := by
    rw [isBalanced, isBalanced, hopen, hclose, openBraces, closeBraces, count_append_barrier ho,
      count_append_barrier hc, Bool.eq_iff_iff, beq_iff_eq, beq_iff_eq]
    omega
  rw [faults, faults, hshapes, hbalanced]

end SyntaxCheck

namespace Validation

variable {s : Snapshot}

/-- **The tokens of a text with a block** that begins with NUL and holds no opening brace are those before it
and those behind it. -/
theorem tokenErrors_append_marked {m : Text} (ho : .char '{' ∉ nul :: m) (a b : Text) :
    tokenErrors s bare (a ++ (nul :: m ++ b)) = tokenErrors s bare a ++ tokenErrors s bare b := by
  have hhits : (Template.cut bare (a ++ (nul :: m ++ b))).hits =
      (Template.cut bare a).hits ++ (Template.cut bare b).hits :=
    hits_cut_across_barrier (fun _ _ => Token.at?_eq_some_iff)
      (fun _ hk => by
        obtain ⟨body, hraw, -⟩ := hk.isToken.exists_inner
        rw [hraw]
        rfl) (fun _ hk => hk.nul_notMem) ho a b
  simp only [tokenErrors, filterMap_ofToken?_eq, Template.map_token_occurrences, hhits,
    List.filterMap_append]

end Validation

namespace Template

/-- What stands between the braces of a token. -/
theorem notMem_of_raw_eq {w : Text} (hk : k.Spelled bare) (hw : k.raw = openBraces ++ w ++ closeBraces)
    {c : CodePoint} (hc : c.isInner = false) : c ∉ w := by
  obtain ⟨body, hraw, -, hbody⟩ := hk.isToken.exists_inner
  obtain rfl : w = body := by simpa [hw] using hraw
  exact fun hm => by simp [hbody c hm] at hc

/-- The marks and what stands between them. -/
theorem protect_escapedToken {u v w : Text} (hb : backslash ∉ w) :
    protect (u ++ openEscape ++ w ++ closeEscape ++ v) =
      protect u ++ (openMark ++ w ++ closeMark ++ protect v) := by
  have hseam : Seam u (openEscape ++ (w ++ (closeEscape ++ v))) := seam_backslash u _
  simp only [List.append_assoc]
  rw [protect_append hseam, protect_openEscape_append, protect_append_of_notMem hb,
    protect_closeEscape_append]

variable {u v w : Text}

/-- The template with the escapes is as plain as its parts. -/
theorem isPlain_escapedToken (hu : IsPlain u) (hv : IsPlain v) (hw : IsPlain w) :
    IsPlain (u ++ openEscape ++ w ++ closeEscape ++ v) := by
  have happ : u ++ openEscape ++ w ++ closeEscape ++ v =
      u ++ backslash :: ([] ++ .char '{' :: ([] ++ .char '{' :: (w ++ backslash :: ([] ++ .char '}' ::
        ([] ++ .char '}' :: v))))) := by simp [openEscape, closeEscape]
  have hnil : IsPlain [] := by decide
  rw [happ]
  repeat rw [isPlain_append_cons_iff (by decide) (by decide)]
  exact ⟨hu, hnil, hnil, hw, hnil, hnil, hv⟩

/-- **A token with its braces escaped stands for itself.** The texts around it resolve as they do alone, the
other diagnostics are what they were, and the diagnostic of the token is gone. -/
theorem escapedToken_stands_for_itself (hk : k.Spelled bare) (hraw : k.raw = openBraces ++ w ++ closeBraces)
    (hslash : ¬ [backslash] <:+ u) (hbrace : ¬ [backslash, .char '{'] <:+ u) (hu : IsPlain u)
    (hv : IsPlain v) (hplain : IsPlain k.raw) (s : Snapshot) :
    let escaped := u ++ openEscape ++ w ++ closeEscape ++ v
    let p := protect (u ++ k.raw ++ v)
    let o : Occurrence := ⟨k, (protect u).length, (protect u).length + k.raw.length⟩
    resolve escaped s bare = resolve u s bare ++ k.raw ++ resolve v s bare ∧
    ∃ os₁ os₂, occurrences bare p = os₁ ++ o :: os₂ ∧
      let before := (SyntaxCheck.faults p).map .ofSyntax ++
        os₁.filterMap fun o => Diagnostic.ofToken? s o.token
      let after := os₂.filterMap fun o => Diagnostic.ofToken? s o.token
      (Validation.ofTemplate (u ++ k.raw ++ v) s bare).errors =
          before ++ (Diagnostic.ofToken? s k).toList ++ after ∧
        (Validation.ofTemplate escaped s bare).errors = before ++ after := by
  intro escaped p o
  have hb : backslash ∉ w := notMem_of_raw_eq hk hraw (by decide)
  have ho : .char '{' ∉ w := notMem_of_raw_eq hk hraw (by decide)
  have hc : .char '}' ∉ w := notMem_of_raw_eq hk hraw (by decide)
  have hw : IsPlain w := by
    have hsplit : k.raw = [] ++ .char '{' :: ([] ++ .char '{' :: (w ++ .char '}' :: [.char '}'])) := by
      simp [hraw, openBraces, closeBraces]
    rw [hsplit, isPlain_append_cons_iff (by decide) (by decide),
      isPlain_append_cons_iff (by decide) (by decide), isPlain_append_cons_iff (by decide) (by decide)] at hplain
    exact hplain.2.2.1
  refine ⟨?_, ?_⟩
  · rw [resolve_eq_scan_of_isPlain (isPlain_escapedToken hu hv hw), resolve_eq_scan_of_isPlain hu,
      resolve_eq_scan_of_isPlain hv, hraw]
    have hopen : scan s bare (u ++ (openEscape ++ (w ++ (closeEscape ++ v)))) =
        scan s bare u ++ scan s bare (openEscape ++ (w ++ (closeEscape ++ v))) :=
      scan_append_backslash u _
    simp only [List.append_assoc, hopen, scan_openEscape_append, scan_append_of_notMem ho hb,
      scan_closeEscape_append]
  · -- the marks, with what was between the braces, are a block that begins with NUL
    obtain ⟨m, hm⟩ : ∃ m, openMark ++ w ++ closeMark = nul :: m := ⟨_, rfl⟩
    have hom : .char '{' ∉ nul :: m := by
      rw [← hm]
      simp only [List.mem_append, not_or]
      exact ⟨⟨by decide, ho⟩, by decide⟩
    have hcm : .char '}' ∉ nul :: m := by
      rw [← hm]
      simp only [List.mem_append, not_or]
      exact ⟨⟨by decide, hc⟩, by decide⟩
    have hp : p = protect u ++ (k.raw ++ protect v) := by
      rw [← protect_insert hk hslash hbrace, ← List.append_assoc]
    have hescaped : protect escaped = protect u ++ (nul :: m ++ protect v) := by
      rw [← hm, ← protect_escapedToken hb]
    have hfaults : SyntaxCheck.faults (protect escaped) = SyntaxCheck.faults p := by
      rw [hescaped, hp, SyntaxCheck.faults_append_marked hk hom hcm]
    refine ⟨occurrencesAt bare 0 (protect u),
      occurrencesAt bare ((protect u).length + k.raw.length) (protect v), ?_, ?_, ?_⟩
    · rw [occurrences_eq_occurrencesAt, hp, occurrencesAt_append_token hk]
      simp only [Nat.zero_add, o]
    · have htokens : Validation.tokenErrors s bare p = Validation.tokenErrors s bare (protect u) ++
          ((Diagnostic.ofToken? s k).toList ++ Validation.tokenErrors s bare (protect v)) := by
        rw [hp, Validation.tokenErrors_append_token hk]
      rw [Validation.errors_ofTemplate, htokens, Validation.filterMap_occurrencesAt,
        Validation.filterMap_occurrencesAt, ← List.append_assoc, ← List.append_assoc]
    · rw [Validation.errors_ofTemplate, hfaults, hescaped, Validation.tokenErrors_append_marked hom,
        Validation.filterMap_occurrencesAt, Validation.filterMap_occurrencesAt, List.append_assoc]

/-- A misspelled field between an empty pair with a lone brace and a closing pair with another token. -/
theorem escapedToken_stands_for_itself_misspelled :
    let s : Snapshot := { fields := [{ key := "name", label := "Name", sectionId := "x" }] }
    let u : Text := openBraces ++ closeBraces ++ [.char '{']
    let v : Text := closeBraces ++ TokenKind.sectionNotes.token "zz"
    let k : Token := ⟨.field, "nme", TokenKind.field.token "nme"⟩
    let escaped := u ++ openEscape ++ "field:nme" ++ closeEscape ++ v
    let d := Diagnostic.notFound .field "Field" ["name"] k
    resolve escaped s false =
        u ++ k.raw ++ (closeBraces ++ Resolution.placeholder "Section not found" "zz") ∧
      ∃ before after, (Validation.ofTemplate (u ++ k.raw ++ v) s false).errors = before ++ [d] ++ after ∧
        (Validation.ofTemplate escaped s false).errors = before ++ after := by
  intro s u v k escaped d
  have hk : k.Spelled false := spelled_token false (by decide) (by decide)
  obtain ⟨hresolve, os₁, os₂, -, hbefore, hafter⟩ := escapedToken_stands_for_itself (u := u) (v := v) hk
    (w := "field:nme") rfl (by decide) (by decide) (by decide) (by decide) (by decide) s
  exact ⟨hresolve.trans (by decide +kernel), _, _, hbefore, hafter⟩

end Template

end PromptTemplate
