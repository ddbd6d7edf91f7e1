import PromptTemplate.Resolution
import PromptTemplate.Proofs.Template.Grammar
import PromptTemplate.Proofs.Template.Restore

/-!
# Filling in a protected template

A template is resolved by filling in its protected form (`fill`): every token gives way to its value
and every mark to the braces it stands for. The lemmas say what `fill` does with a token, a mark or a
literal code point at the head of a text. A token stands at the head of the protected text exactly when
it stands at the head of the template (`at?_protect`).
-/

namespace PromptTemplate

open Text Escape

namespace Token

variable {bare : Bool}

/-- A token holds no backslash. -/
theorem Spelled.backslash_notMem {k : Token} (h : k.Spelled bare) : backslash ∉ k.raw :=
  h.isToken.notMem (by decide) (by decide) (by decide)

/-- A token holds no NUL. -/
theorem Spelled.nul_notMem {k : Token} (h : k.Spelled bare) : nul ∉ k.raw :=
  h.isToken.notMem (by decide) (by decide) (by decide)

theorem at?_cons_eq_none {c : CodePoint} (hc : c ≠ .char '{') (t : Text) : at? bare (c :: t) = none := by
  refine Option.eq_none_iff_forall_ne_some.mpr fun k hk => ?_
  obtain ⟨hk, hpre⟩ := at?_eq_some_iff.mp hk
  obtain ⟨body, hraw, -⟩ := hk.isToken.exists_inner
  rw [hraw] at hpre
  exact hc (List.cons_prefix_cons.mp hpre).1.symm

theorem openBraces_prefix_of_at? {k : Token} {t : Text} (h : at? bare t = some k) : openBraces <+: t := by
  obtain ⟨hk, hpre⟩ := at?_eq_some_iff.mp h
  obtain ⟨body, hraw, -⟩ := hk.isToken.exists_inner
  rw [hraw, List.append_assoc] at hpre
  exact (List.prefix_append _ _).trans hpre

theorem at?_protect (t : Text) : at? bare (protect t) = at? bare t := by
  refine Option.ext fun k => ?_
  rw [at?_eq_some_iff, at?_eq_some_iff]
  exact and_congr_right fun hk => prefix_protect_iff hk.nul_notMem hk.backslash_notMem

end Token

namespace Template

/-- A protected template with its tokens and marks replaced. -/
def fill (s : Snapshot) (bare : Bool) (u : Text) : Text :=
  ((cut bare u).mapLiteral unescape).render fun k => (Resolution.ofToken s k).value

theorem resolve_eq_fill (t : Text) (s : Snapshot) (bare : Bool) :
    resolve t s bare = fill s bare (protect t) := rfl

variable {s : Snapshot} {bare : Bool}

theorem unescape_eq_unmark (t : Text) : unescape t = unmark openBraces closeBraces t := rfl

theorem fill_append_token {k : Token} (hk : k.Spelled bare) (u : Text) :
    fill s bare (k.raw ++ u) = (Resolution.ofToken s k).value ++ fill s bare u := by
  unfold fill cut
  rw [cut_append_of_some hk.isToken.ne_nil (Token.at?_eq_some_of_spelled hk u)]
  exact Cut.render_consHit _ k ((Text.cut (Token.at? bare) Token.raw u).mapLiteral unescape)

/-- Literal text without opening braces in front of a protected template. -/
theorem fill_append_literal {p v u : Text} (hp : .char '{' ∉ p)
    (hv : unescape (p ++ (cut bare u).lead) = v ++ unescape (cut bare u).lead) :
    fill s bare (p ++ u) = v ++ fill s bare u := by
  have hnone : ∀ c ∈ p, ∀ w, Token.at? bare (c :: w) = none := fun c hc =>
    Token.at?_cons_eq_none fun h => hp (h ▸ hc)
  unfold fill cut at *
  rw [cut_append_of_forall_none hnone]
  simp only [Cut.mapLiteral, Cut.render, hv, List.append_assoc]

theorem fill_openMark_append (u : Text) : fill s bare (openMark ++ u) = openBraces ++ fill s bare u := by
  refine fill_append_literal (by decide) ?_
  rw [unescape_eq_unmark, unmark_openMark_append (by decide)]
  rfl

theorem fill_closeMark_append {u : Text} (h : ¬ openName ++ [nul] <+: u) :
    fill s bare (closeMark ++ u) = closeBraces ++ fill s bare u := by
  have hlead : ¬ openName ++ [nul] <+: (cut bare u).lead :=
    mt (prefix_of_prefix_lead Token.anchored_at?) h
  refine fill_append_literal (by decide) ?_
  rw [unescape_eq_unmark, unmark_closeMark_append hlead]
  rfl

theorem fill_cons {c : CodePoint} {u : Text} (hc : nul ≠ c) (h : Token.at? bare (c :: u) = none) :
    fill s bare (c :: u) = c :: fill s bare u := by
  unfold fill cut
  rw [cut_cons_of_none h]
  simp only [Cut.mapLiteral, Cut.render, Cut.cons, unescape_eq_unmark, unmark_cons hc, List.cons_append]

end Template

end PromptTemplate
