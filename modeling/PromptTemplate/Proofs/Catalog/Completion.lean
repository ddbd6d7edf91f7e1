import PromptTemplate.Catalog
import PromptTemplate.Proofs.Template.Insertion

/-!
# Completions that are accepted

What has been typed of a token is the text behind the last two opening braces before the cursor, which the
search takes as they are written, escaped or not. A token set in the place of these braces and what was
typed is found there except when they belong to an escape: two backslashed braces, or the last two of three
braces behind a backslash. Then the token completes the escape and stays text (`accepted_isLive_iff`).
-/

namespace PromptTemplate

open Text Escape

namespace Catalog

/-! ### The last opening braces -/

theorem afterLastOpen?_cons_of_some {c : CodePoint} {t q : Text} (h : afterLastOpen? t = some q) :
    afterLastOpen? (c :: t) = some q := by
  rw [afterLastOpen?, h]

theorem afterLastOpen?_cons_of_none {c : CodePoint} {t : Text} (h : afterLastOpen? t = none) :
    afterLastOpen? (c :: t) = if openBraces.isPrefixOf (c :: t) then some (t.drop 1) else none := by
  rw [afterLastOpen?, h]

theorem afterLastOpen?_eq_none_iff {t : Text} : afterLastOpen? t = none ↔ ¬ openBraces <:+: t := by
  induction t with
  | nil => simp [afterLastOpen?, openBraces]
  | cons c t ih =>
    rw [List.infix_cons_iff, not_or, ← ih]
    cases h : afterLastOpen? t with
    | some q => simp [afterLastOpen?_cons_of_some h]
    | none => simp [afterLastOpen?_cons_of_none h, List.isPrefixOf_iff_prefix]

/-- No opening braces stand behind the last ones, nor do they share a brace with others behind them. -/
theorem afterLastOpen?_eq_some_iff {t q : Text} :
    afterLastOpen? t = some q ↔
      ∃ pre, t = pre ++ (openBraces ++ q) ∧ ¬ openBraces <:+: .char '{' :: q := by
  induction t with
  | nil => simp [afterLastOpen?, openBraces]
  | cons c t ih =>
    -- Braces in the tail of the text come after those at its head.
    cases h : afterLastOpen? t with
    | some q' =>
      rw [afterLastOpen?_cons_of_some h, ← h, ih]
      constructor
      · rintro ⟨pre, ht, hq⟩
        exact ⟨c :: pre, congrArg (c :: ·) ht, hq⟩
      · rintro ⟨pre, ht, hq⟩
        cases pre with
        | nil =>
          obtain ⟨-, rfl⟩ := List.cons.inj ht
          exact absurd (h.symm.trans (afterLastOpen?_eq_none_iff.mpr hq)) (by simp)
        | cons d pre => exact ⟨pre, (List.cons.inj ht).2, hq⟩
    | none =>
      have hnone := afterLastOpen?_eq_none_iff.mp h
      rw [afterLastOpen?_cons_of_none h, Option.ite_none_right_eq_some, List.isPrefixOf_iff_prefix]
      constructor
      · rintro ⟨⟨u, hu⟩, hq⟩
        obtain ⟨rfl, rfl⟩ := List.cons.inj hu
        exact ⟨[], by rw [← Option.some.inj hq]; rfl, by rwa [← Option.some.inj hq]⟩
      · rintro ⟨pre, ht, -⟩
        cases pre with
        | nil => exact ⟨⟨q, ht.symm⟩, by rw [(List.cons.inj ht).2]; rfl⟩
        | cons d pre =>
          refine absurd ⟨pre, q, ?_⟩ hnone
          rw [List.append_assoc]
          exact (List.cons.inj ht).2.symm

theorem clampCursor_le (text : Text) (cursor : Option Int) : clampCursor text cursor ≤ text.length := by
  cases cursor with
  | none => exact Nat.le_refl _
  | some c =>
    change (max 0 (min c text.length)).toNat ≤ text.length
    omega

/-- Where opening braces and `q` stand before the cursor, the text is known in four parts. -/
theorem exists_take_eq_iff {text : Text} {c : Nat} (hc : c ≤ text.length) (q : Text) :
    (∃ pre, text.take c = pre ++ (openBraces ++ q)) ↔
      text = text.take (c - q.length - 2) ++ (openBraces ++ (q ++ text.drop c)) := by
  constructor
  · rintro ⟨pre, hpre⟩
    have hlength : c = pre.length + (q.length + 2) := by
      simpa [openBraces, Nat.min_eq_left hc] using congrArg List.length hpre
    have htake : text.take (c - q.length - 2) = pre := by
      rw [show c - q.length - 2 = min pre.length c by omega, ← List.take_take, hpre, List.take_left]
    calc
      text = text.take c ++ text.drop c := (List.take_append_drop c text).symm
      _ = pre ++ (openBraces ++ q) ++ text.drop c := by rw [hpre]
      _ = text.take (c - q.length - 2) ++ (openBraces ++ (q ++ text.drop c)) := by
        rw [htake, List.append_assoc, List.append_assoc]
  · intro htext
    refine ⟨text.take (c - q.length - 2), (List.append_left_inj (text.drop c)).mp ?_⟩
    rw [List.take_append_drop, List.append_assoc, List.append_assoc]
    exact htext

/-- **What has been typed**: the text behind the last opening braces before the cursor, if no closing braces
stand in it. -/
theorem partialToken?_eq_some_iff {text q : Text} {cursor : Option Int} :
    let c := clampCursor text cursor
    partialToken? text cursor = some q ↔
      text = text.take (c - q.length - 2) ++ (openBraces ++ (q ++ text.drop c)) ∧
      ¬ openBraces <:+: .char '{' :: q ∧ ¬ closeBraces <:+: q := by
  intro c
  rw [partialToken?, Option.filter_eq_some_iff, afterLastOpen?_eq_some_iff, exists_and_right,
    exists_take_eq_iff (clampCursor_le text cursor), Bool.not_eq_true', Bool.eq_false_iff, Ne, has_eq_true_iff,
    and_assoc]

/-! ### The token set in its place -/

/-- One or two code points that make an escape with opening braces: the braces are part of its mark. -/
theorem not_openBraces_prefix_drop_protect {w : Text} (hw : w = [backslash] ∨ w = [backslash, .char '{'])
    (u v : Text) :
    ¬ openBraces <+: (protect (u ++ (w ++ (openBraces ++ v)))).drop (protect (u ++ w)).length := by
  have hescape : ∃ rest, w ++ (openBraces ++ v) = openEscape ++ rest := by
    rcases hw with rfl | rfl
    · exact ⟨v, rfl⟩
    · exact ⟨.char '{' :: v, rfl⟩
  obtain ⟨rest, hrest⟩ := hescape
  have hleft : protect (u ++ w) = protect u ++ w := by
    rcases hw with rfl | rfl <;> exact protect_append (seam_backslash u _)
  have hright : protect (u ++ (openEscape ++ rest)) = protect u ++ (openMark ++ protect rest) := by
    rw [← protect_openEscape_append]
    exact protect_append (seam_backslash u _)
  rw [hrest, hright, hleft, List.length_append, List.drop_length_add_append]
  rcases hw with rfl | rfl <;> exact fun h => absurd (List.cons_prefix_cons.mp h).1 (by decide)

theorem start_ne_of_mem_occurrences {w : Text} (hw : w = [backslash] ∨ w = [backslash, .char '{']) (u v : Text)
    {bare : Bool} {o : Occurrence}
    (ho : o ∈ Template.occurrences bare (protect (u ++ (w ++ (openBraces ++ v))))) :
    o.start ≠ (protect (u ++ w)).length := by
  intro hstart
  rw [Template.occurrences_eq_occurrencesAt] at ho
  obtain ⟨hk, a, b, hwhole, hstart', -⟩ := Template.mem_occurrencesAt_iff.mp ho
  obtain ⟨body, hbody, -⟩ := hk.isToken.exists_inner
  have hlength : (protect (u ++ w)).length = a.length := by rw [← hstart, hstart', Nat.zero_add]
  refine not_openBraces_prefix_drop_protect hw u v ?_
  rw [hlength, hwhole, List.drop_left, hbody, List.append_assoc, List.append_assoc]
  exact List.prefix_append _ _

/-- **An accepted completion is a token except behind the beginning of an escape.** -/
theorem accepted_isLive_iff (text q key : Text) (cursor : Option Int) (kind : TokenKind) (bare : Bool)
    (hq : partialToken? text cursor = some q) (hkey : kind = .allFields ∨ kind = .allNotes ∨ IsKey key) :
    let c := clampCursor text cursor
    let pre := text.take (c - q.length - 2)
    let tok := kind.token key
    text = pre ++ (openBraces ++ (q ++ text.drop c)) ∧
    ((∃ o ∈ Template.occurrences bare (protect (pre ++ tok ++ text.drop c)),
        o.token.raw = tok ∧ o.start = (protect pre).length) ↔
      ¬ [backslash] <:+ pre ∧ ¬ [backslash, .char '{'] <:+ pre) := by
  intro c pre tok
  obtain ⟨k, hk, hraw, -⟩ := Template.exists_spelled_token bare hkey
  replace hraw : k.raw = tok := hraw
  refine ⟨(partialToken?_eq_some_iff.mp hq).1, fun ⟨o, ho, _, hstart⟩ => ?_, fun ⟨hslash, hbrace⟩ => ?_⟩
  · obtain ⟨body, hbody, -⟩ := hk.isToken.exists_inner
    rw [← hraw, hbody, List.append_assoc, List.append_assoc, List.append_assoc] at ho
    have hdead : ∀ w, w = [backslash] ∨ w = [backslash, .char '{'] → ¬ w <:+ pre := by
      rintro w hw ⟨u, hu⟩
      rw [← hu, List.append_assoc u] at ho
      exact start_ne_of_mem_occurrences hw u _ ho (hu ▸ hstart)
    exact ⟨hdead _ (.inl rfl), hdead _ (.inr rfl)⟩
  · refine ⟨⟨k, (protect pre).length, (protect pre).length + k.raw.length⟩, ?_, hraw, rfl⟩
    rw [List.append_assoc, ← hraw, Template.protect_insert hk hslash hbrace,
      Template.occurrences_eq_occurrencesAt, Template.occurrencesAt_append_token hk]
    simp

/-- Behind a third brace, with an escape before it and a brace behind the cursor. -/
theorem accepted_isLive_thirdBrace :
    let text := openEscape ++ [.char '{'] ++ openBraces ++ Text.ofString "Fi" ++ [.char '}']
    let c := clampCursor text (some 8)
    let pre := text.take (c - 2 - 2)
    let tok := TokenKind.field.token "k-1"
    partialToken? text (some 8) = some (Text.ofString "Fi") ∧ IsKey "k-1" ∧ (protect pre).length = 11 ∧
      ∃ o ∈ Template.occurrences true (protect (pre ++ tok ++ text.drop c)),
        o.token.raw = tok ∧ o.start = (protect pre).length := by
  intro text c pre tok
  have hq : partialToken? text (some 8) = some (Text.ofString "Fi") := by decide
  have hkey : IsKey "k-1" := by decide
  have h := accepted_isLive_iff text (Text.ofString "Fi") "k-1" (some 8) .field true hq (.inr (.inr hkey))
  exact ⟨hq, hkey, by decide, h.2.mpr ⟨by decide, by decide⟩⟩

/-- A pair of braces that is escaped asks for a completion, and no token is where one is accepted. -/
theorem accepted_completes_escape :
    let text := openEscape
    let c := clampCursor text none
    let pre := text.take (c - 2)
    partialToken? text none = some [] ∧ IsKey "k" ∧
      ∀ bare, Template.occurrences bare (protect (pre ++ TokenKind.field.token "k" ++ text.drop c)) = [] := by
  refine ⟨by decide, by decide, fun bare => ?_⟩
  cases bare <;> decide

end Catalog

end PromptTemplate
