import Mathlib.Data.List.Nodup
import PromptTemplate.Diagnostic
import PromptTemplate.Proofs.Table
import PromptTemplate.Proofs.Template.Insertion
import PromptTemplate.Proofs.Template.Protected
import PromptTemplate.Proofs.Template.Shapes
import PromptTemplate.Proofs.Validation.Agreement

/-!
# Following a suggestion

A diagnostic suggests tokens that name something (`Diagnostic.exists_of_mem_suggestions`). To follow a
suggestion is to put it in the place of the reported token, in the protected template, and to restore the
result. The new template is protected to just that text, since a token in the place of another makes no
escape. There the tokens before and behind stay what they are, the new one is not reported, and the braces
are counted as before: one diagnostic is gone and no other has changed (`errors_followSuggestion`).
-/

namespace PromptTemplate

open Text Escape

variable {s : Snapshot} {bare : Bool}

/-! ### What is suggested -/

namespace Similarity

theorem mem_of_mem_takeSigned {α : Type} {limit : Int} {items : List α} {a : α}
    (h : a ∈ takeSigned limit items) : a ∈ items := by
  unfold takeSigned at h
  split at h <;> exact List.mem_of_mem_take h

/-- Only candidates are suggested. -/
theorem mem_of_mem_suggest {target key : Text} {candidates : List Text}
    (h : key ∈ suggest target candidates) : key ∈ candidates := by
  have hranked : key ∈ ranked defaultThreshold target candidates := by
    unfold suggest findSimilar at h
    exact mem_of_mem_takeSigned h
  obtain ⟨p, hp, rfl⟩ := List.mem_map.mp hranked
  have hscored := (List.mem_filter.mp (List.mem_mergeSort.mp hp)).1
  obtain ⟨c, hc, rfl⟩ := List.mem_map.mp hscored
  exact (List.mem_filter.mp (List.mem_eraseDups.mp hc)).1

end Similarity

namespace Diagnostic

variable {k : Token} {d : Diagnostic}

/-- A diagnostic suggests tokens of its own kind. -/
theorem exists_of_mem_suggestions_notFound {type : DiagnosticType} {noun : String}
    {candidates ts : List Text} {x : Text}
    (hts : (notFound type noun candidates k).suggestions = some ts) (hx : x ∈ ts) :
    ∃ key ∈ candidates, x = type.kind.token key := by
  simp only [notFound, Option.ite_none_left_eq_some, Option.some.injEq] at hts
  obtain ⟨-, rfl⟩ := hts
  obtain ⟨key, hkey, rfl⟩ := List.mem_map.mp hx
  exact ⟨key, Similarity.mem_of_mem_suggest hkey, rfl⟩

/-- **What is suggested is there.** -/
theorem exists_of_mem_suggestions (hd : ofToken? s k = some d) {ts : List Text}
    (hts : d.suggestions = some ts) {x : Text} (hx : x ∈ ts) :
    ∃ key, x = d.type.kind.token key ∧ ∀ raw, ¬ Token.NamesNothing s ⟨d.type.kind, key, raw⟩ := by
  have hfield : ∀ key ∈ s.fieldByKey.keys, s.field? key ≠ none := fun key hkey h => by
    rw [← Table.isSome_get?_iff, Snapshot.get?_fieldByKey, h] at hkey
    cases hkey
  have hsection : ∀ key ∈ s.sectionById.keys, s.section? key ≠ none := fun key hkey h => by
    rw [← Table.isSome_get?_iff, Snapshot.get?_sectionById, h] at hkey
    cases hkey
  unfold ofToken? at hd
  split at hd
  case h_4 | h_5 => cases hd
  all_goals
    split at hd
    · cases hd
    · cases hd
      obtain ⟨key, hkey, rfl⟩ := exists_of_mem_suggestions_notFound hts hx
      refine ⟨key, rfl, fun raw => ?_⟩
      first | exact hfield key hkey | exact hsection key hkey

theorem kind_mem_prefixed (type : DiagnosticType) :
    type.kind ∈ [.field, .sectionFields, .sectionNotes] := by
  cases type <;> simp [DiagnosticType.kind]

theorem token_injective {kind : TokenKind} (hkind : kind ∈ [.field, .sectionFields, .sectionNotes])
    {key key' : Text} (h : kind.token key = kind.token key') : key = key' := by
  simp only [List.mem_cons, List.not_mem_nil, or_false] at hkind
  rcases hkind with rfl | rfl | rfl <;> simpa [TokenKind.token, explicitToken] using h

/-- A suggested token is not reported. -/
theorem ofToken?_eq_none_of_mem_suggestions (hd : ofToken? s k = some d) {ts : List Text}
    (hts : d.suggestions = some ts) {key : Text} (hmem : d.type.kind.token key ∈ ts) (raw : Text) :
    ofToken? s ⟨d.type.kind, key, raw⟩ = none := by
  obtain ⟨key', htok, hno⟩ := exists_of_mem_suggestions hd hts hmem
  obtain rfl := token_injective (kind_mem_prefixed d.type) htok
  rw [← Option.not_isSome_iff_eq_none, isSome_ofToken?_iff]
  exact hno _

end Diagnostic

namespace Validation

/-! ### Another token in the place of one -/

/-- The diagnostics of the tokens of a text. -/
def tokenErrors (s : Snapshot) (bare : Bool) (u : Text) : List Diagnostic :=
  (Template.occurrences bare u).filterMap fun o => Diagnostic.ofToken? s o.token

theorem errors_ofTemplate (t : Text) :
    (ofTemplate t s bare).errors =
      (SyntaxCheck.faults (protect t)).map .ofSyntax ++ tokenErrors s bare (protect t) := rfl

theorem filterMap_ofToken?_eq (os : List Occurrence) :
    os.filterMap (fun o => Diagnostic.ofToken? s o.token) =
      (os.map Occurrence.token).filterMap (Diagnostic.ofToken? s) := by
  rw [List.filterMap_map]
  rfl

theorem tokenErrors_append_token {k : Token} (hk : k.Spelled bare) (a b : Text) :
    tokenErrors s bare (a ++ (k.raw ++ b)) =
      tokenErrors s bare a ++ ((Diagnostic.ofToken? s k).toList ++ tokenErrors s bare b) := by
  simp only [tokenErrors, filterMap_ofToken?_eq, Template.map_token_occurrences,
    Template.cut_append_token hk, Cut.hits_splice, List.filterMap_append, List.filterMap_cons]
  cases Diagnostic.ofToken? s k <;> rfl

/-- The diagnostics of tokens depend on the tokens alone, not on where they stand. -/
theorem filterMap_occurrencesAt (n : Nat) (u : Text) :
    (Template.occurrencesAt bare n u).filterMap (fun o => Diagnostic.ofToken? s o.token) =
      tokenErrors s bare u := by
  rw [tokenErrors, filterMap_ofToken?_eq, filterMap_ofToken?_eq, Template.map_token_occurrences,
    Template.occurrencesAt, Template.map_token_occurrencesFrom]
  rfl

/-- A token cuts the text in two, and the other tokens are those of both parts. -/
theorem exists_append_of_occurrences {u : Text} {o : Occurrence} {os₁ os₂ : List Occurrence}
    (h : Template.occurrences bare u = os₁ ++ o :: os₂) :
    o.token.Spelled bare ∧ u = u.take o.start ++ (o.token.raw ++ u.drop o.stop) ∧
      os₁.filterMap (fun o => Diagnostic.ofToken? s o.token) = tokenErrors s bare (u.take o.start) ∧
      os₂.filterMap (fun o => Diagnostic.ofToken? s o.token) = tokenErrors s bare (u.drop o.stop) := by
  rw [Template.occurrences_eq_occurrencesAt] at h
  have hnodup : (Template.occurrencesAt bare 0 u).Nodup := Template.nodup_occurrencesAt 0 u
  have ho : o ∈ Template.occurrencesAt bare 0 u := h ▸ List.mem_append_right os₁ (List.mem_cons_self ..)
  obtain ⟨hk, a, b, hu, hstart, hstop⟩ := Template.mem_occurrencesAt_iff.mp ho
  obtain ⟨k, start, stop⟩ := o
  simp only at hk hu hstart hstop
  -- the occurrences around it are those of the parts, since it is found only once
  have hsplit := Template.occurrencesAt_append_token hk a b 0
  rw [← hu, h, ← hstop, ← hstart] at hsplit
  rw [h, List.nodup_middle, List.nodup_cons, List.mem_append, not_or] at hnodup
  obtain ⟨rfl, -, rfl⟩ := (List.append_cons_inj_of_notMem hnodup.1.1 hnodup.1.2).mp hsplit
  have ha : u.take start = a := by rw [hu, hstart, Nat.zero_add, List.take_left]
  have hb : u.drop stop = b := by
    rw [hu, ← List.append_assoc, List.drop_left' (by rw [hstop, Nat.zero_add, List.length_append])]
  exact ⟨hk, by rw [ha, hb]; exact hu, by rw [ha, filterMap_occurrencesAt],
    by rw [hb, filterMap_occurrencesAt]⟩

/-- With another token in the place of one, a protected text is protected still. -/
theorem protect_restore_replace_token {k k' : Token} (hk : k.Spelled bare) (hk' : k'.Spelled bare)
    {t a b : Text} (h : protect t = a ++ (k.raw ++ b)) :
    protect (restore (a ++ (k'.raw ++ b))) = a ++ (k'.raw ++ b) := by
  have hprotected : IsProtected (a ++ (k.raw ++ b)) := h ▸ isProtected_protect t
  rw [isProtected_append_token_iff hk] at hprotected
  exact protect_restore ((isProtected_append_token_iff hk' a b).mpr hprotected)

/-! ### Following a suggestion -/

/-- **A suggestion that is followed mends its diagnostic** and leaves all others as they are. -/
theorem errors_followSuggestion {t : Text} {o : Occurrence} {os₁ os₂ : List Occurrence}
    {d : Diagnostic} {ts : List Text} {key : Text}
    (ho : Template.occurrences bare (protect t) = os₁ ++ o :: os₂)
    (hd : Diagnostic.ofToken? s o.token = some d) (hts : d.suggestions = some ts)
    (hmem : d.type.kind.token key ∈ ts) (hkey : IsKey key) :
    let p := protect t
    let followed := restore (p.take o.start ++ d.type.kind.token key ++ p.drop o.stop)
    let before := (SyntaxCheck.faults p).map .ofSyntax ++
      os₁.filterMap fun o => Diagnostic.ofToken? s o.token
    let after := os₂.filterMap fun o => Diagnostic.ofToken? s o.token
    (ofTemplate t s bare).errors = before ++ d :: after ∧
      (ofTemplate followed s bare).errors = before ++ after := by
  intro p followed before after
  obtain ⟨hk, hp, hbefore, hafter⟩ := exists_append_of_occurrences (s := s) ho
  change p = p.take o.start ++ (o.token.raw ++ p.drop o.stop) at hp
  -- the token that is put in
  let k : Token := ⟨d.type.kind, key, d.type.kind.token key⟩
  have hk' : k.Spelled bare := Template.spelled_token bare (Diagnostic.kind_mem_prefixed d.type) hkey
  have hnone : Diagnostic.ofToken? s k = none :=
    Diagnostic.ofToken?_eq_none_of_mem_suggestions hd hts hmem _
  have hprotected : protect followed = p.take o.start ++ (k.raw ++ p.drop o.stop) := by
    rw [← protect_restore_replace_token hk hk' hp, ← List.append_assoc]
  have hfaults : SyntaxCheck.faults (protect followed) = SyntaxCheck.faults p := by
    rw [hprotected, SyntaxCheck.faults_replace_token hk' hk, ← hp]
  constructor
  · have herr : tokenErrors s bare p = tokenErrors s bare (p.take o.start) ++
        ([d] ++ tokenErrors s bare (p.drop o.stop)) := by
      conv_lhs => rw [hp]
      rw [tokenErrors_append_token hk, hd]
      rfl
    rw [errors_ofTemplate, herr]
    simp only [before, after, hbefore, hafter, List.append_assoc, List.singleton_append]
    rfl
  · have herr : tokenErrors s bare (protect followed) = tokenErrors s bare (p.take o.start) ++
        tokenErrors s bare (p.drop o.stop) := by
      rw [hprotected, tokenErrors_append_token hk', hnone]
      rfl
    rw [errors_ofTemplate, hfaults, herr]
    simp only [before, after, hbefore, hafter, List.append_assoc]
    rfl

/-- Behind an escape and an empty token, a misspelled field before braces that stay open and a section
that is not there. -/
theorem errors_followSuggestion_misspelled :
    let s : Snapshot := { fields := [{ key := "name", label := "Name", sectionId := "x" }] }
    let text (tok : Text) : Text :=
      openEscape ++ openBraces ++ closeBraces ++ tok ++ openBraces ++
        TokenKind.sectionNotes.token "zz"
    let d := Diagnostic.notFound .field "Field" ["name"] ⟨.field, "nme", TokenKind.field.token "nme"⟩
    let d' := Diagnostic.notFound .sectionNotes "Section" []
      ⟨.sectionNotes, "zz", TokenKind.sectionNotes.token "zz"⟩
    let faults := (SyntaxCheck.faults (protect (text []))).map Diagnostic.ofSyntax
    faults.length = 2 ∧ d.suggestions = some [TokenKind.field.token "name"] ∧
      (ofTemplate (text (TokenKind.field.token "nme")) s true).errors = faults ++ [d, d'] ∧
      (ofTemplate (text (TokenKind.field.token "name")) s true).errors = faults ++ [d'] := by
  intro s text d d' faults
  have ho : Template.occurrences true (protect (text (TokenKind.field.token "nme"))) =
      [] ++ ⟨⟨.field, "nme", TokenKind.field.token "nme"⟩, 14, 27⟩ ::
        [⟨⟨.sectionNotes, "zz", TokenKind.sectionNotes.token "zz"⟩, 29, 41⟩] := by decide +kernel
  have hd : Diagnostic.ofToken? s ⟨.field, "nme", TokenKind.field.token "nme"⟩ = some d := rfl
  have hts : d.suggestions = some [TokenKind.field.token "name"] := by decide +kernel
  have hmem : d.type.kind.token "name" ∈ [TokenKind.field.token "name"] := List.mem_singleton.mpr rfl
  have h := errors_followSuggestion ho hd hts hmem (by decide)
  have hfollowed : restore ((protect (text (TokenKind.field.token "nme"))).take 14 ++
      TokenKind.field.token "name" ++ (protect (text (TokenKind.field.token "nme"))).drop 27) =
      text (TokenKind.field.token "name") := by decide +kernel
  refine ⟨by decide, hts, h.1.trans (by decide +kernel), ?_⟩
  rw [← hfollowed]
  exact h.2.trans (by decide +kernel)

end Validation

end PromptTemplate
