import PromptTemplate.Digest
import PromptTemplate.Proofs.Template.Filling
import PromptTemplate.Proofs.Template.Shapes
import PromptTemplate.Text.Blank

/-!
# Texts without lone surrogates

What is put together from texts without lone surrogates has none: appended, joined and cut texts, numerals,
and the texts with their escapes marked and unmarked. Tokens and empty shapes have none whatever they are
read from, since all their code points are characters.
-/

namespace PromptTemplate

namespace CodePoint

@[simp] theorem isSurrogate_char (c : Char) : (CodePoint.char c).isSurrogate = false := rfl

@[simp] theorem isSurrogate_surrogate (n : Fin 2048) : (CodePoint.surrogate n).isSurrogate = true := rfl

theorem isSurrogate_of_inRanges {ranges : List (Nat × Nat)} (hr : ∀ r ∈ ranges, r.2 < 0xD800)
    {c : CodePoint} (h : c.inRanges ranges = true) : c.isSurrogate = false := by
  obtain ⟨r, hmem, hc⟩ := List.any_eq_true.mp h
  have hhigh := hr r hmem
  simp only [Bool.and_eq_true, decide_eq_true_eq] at hc
  cases c with
  | char c => rfl
  | surrogate n =>
    simp only [toNat] at hc
    omega

theorem isSurrogate_of_isBlank {c : CodePoint} (h : c.isBlank = true) : c.isSurrogate = false := by
  rw [isBlank, isWhiteSpace, Bool.or_eq_true] at h
  rcases h with h | h <;> exact isSurrogate_of_inRanges (by decide) h

end CodePoint

namespace Text

theorem isScalar_iff {t : Text} : t.isScalar = true ↔ ∀ c ∈ t, c.isSurrogate = false := by
  simp [isScalar]

theorem isScalar_iff_notMem {t : Text} : t.isScalar = true ↔ ∀ n, .surrogate n ∉ t := by
  refine isScalar_iff.trans ⟨fun h n hn => by simpa using h _ hn, fun h c hc => ?_⟩
  cases c with
  | char c => rfl
  | surrogate n => exact absurd hc (h n)

@[simp] theorem isScalar_nil : isScalar [] = true := rfl

@[simp] theorem isScalar_cons (c : CodePoint) (t : Text) :
    isScalar (c :: t) = (!c.isSurrogate && t.isScalar) := rfl

@[simp] theorem isScalar_append (t u : Text) : (t ++ u).isScalar = (t.isScalar && u.isScalar) :=
  List.all_append

@[simp] theorem isScalar_map_char (cs : List Char) : isScalar (cs.map .char) = true := by
  simp [isScalar_iff]

@[simp] theorem isScalar_ofString (s : String) : (ofString s).isScalar = true := isScalar_map_char _

theorem isScalar_replicate_char (n : Nat) (c : Char) : isScalar (List.replicate n (.char c)) = true := by
  simp [isScalar_iff]

theorem isScalar_of_subset {t u : Text} (h : u.isScalar = true) (hsub : t ⊆ u) : t.isScalar = true :=
  isScalar_iff.mpr fun c hc => isScalar_iff.mp h c (hsub hc)

theorem isScalar_flatMap {α : Type} {f : α → Text} {as : List α} :
    isScalar (as.flatMap f) = true ↔ ∀ a ∈ as, (f a).isScalar = true := by
  simp only [isScalar_iff, List.mem_flatMap]
  exact ⟨fun h a ha c hc => h c ⟨a, ha, hc⟩, fun h c ⟨a, ha, hc⟩ => h a ha c hc⟩

/-! ### Joined and split texts -/

theorem mem_joinWith {sep : Text} {ts : List Text} {c : CodePoint} (h : c ∈ joinWith sep ts) :
    c ∈ sep ∨ ∃ t ∈ ts, c ∈ t := by
  induction ts with
  | nil => cases h
  | cons t ts ih =>
    cases ts with
    | nil => exact .inr ⟨t, List.mem_cons_self .., h⟩
    | cons u ts =>
      rw [joinWith, List.mem_append, List.mem_append] at h
      rcases h with (h | h) | h
      · exact .inr ⟨t, List.mem_cons_self .., h⟩
      · exact .inl h
      · rcases ih h with h | ⟨v, hv, hc⟩
        · exact .inl h
        · exact .inr ⟨v, List.mem_cons_of_mem _ hv, hc⟩

theorem mem_joinWith_of_mem {sep t : Text} {ts : List Text} {c : CodePoint} (ht : t ∈ ts) (hc : c ∈ t) :
    c ∈ joinWith sep ts := by
  induction ts with
  | nil => cases ht
  | cons u ts ih =>
    cases ts with
    | nil =>
      obtain rfl := List.mem_singleton.mp ht
      exact hc
    | cons v ts =>
      rw [joinWith, List.mem_append, List.mem_append]
      rcases List.mem_cons.mp ht with rfl | ht
      · exact .inl (.inl hc)
      · exact .inr (ih ht)

theorem isScalar_joinWith {sep : Text} {ts : List Text} (hsep : sep.isScalar = true)
    (hts : ∀ t ∈ ts, t.isScalar = true) : (joinWith sep ts).isScalar = true := by
  refine isScalar_iff.mpr fun c hc => ?_
  rcases mem_joinWith hc with hc | ⟨t, ht, hc⟩
  · exact isScalar_iff.mp hsep c hc
  · exact isScalar_iff.mp (hts t ht) c hc

theorem subset_of_mem_splitOn {sep : CodePoint} {t part : Text} (h : part ∈ t.splitOn sep) : part ⊆ t := by
  induction t generalizing part with
  | nil =>
    obtain rfl := List.mem_singleton.mp h
    exact List.Subset.refl _
  | cons c t ih =>
    rw [splitOn] at h
    split at h
    · rcases List.mem_cons.mp h with rfl | h
      · exact List.nil_subset _
      · exact List.subset_cons_of_subset _ (ih h)
    · split at h
      · rename_i hnil
        exact absurd hnil (splitOn_ne_nil sep t)
      · rename_i first parts hsplit
        rw [hsplit] at ih
        rcases List.mem_cons.mp h with rfl | h
        · exact List.cons_subset_cons _ (ih (List.mem_cons_self ..))
        · exact List.subset_cons_of_subset _ (ih (List.mem_cons_of_mem _ h))

/-! ### Cut texts -/

theorem isScalar_render {α : Type} {f : α → Text} {c : Cut α} :
    (c.render f).isScalar = true ↔
      c.lead.isScalar = true ∧ ∀ p ∈ c.rest, (f p.1).isScalar = true ∧ p.2.isScalar = true := by
  simp [Cut.render, isScalar_flatMap]

/-- The parts of a text without lone surrogates have none. -/
theorem isScalar_of_cut {α : Type} {match? : Text → Option α} {raw : α → Text} (h : Anchored match? raw)
    {t : Text} (ht : t.isScalar = true) :
    (cut match? raw t).lead.isScalar = true ∧ ∀ p ∈ (cut match? raw t).rest, p.2.isScalar = true := by
  rw [← render_cut match? raw h t] at ht
  obtain ⟨hlead, hrest⟩ := isScalar_render.mp ht
  exact ⟨hlead, fun p hp => (hrest p hp).2⟩

theorem isScalar_replace {t p sub : Text} (hp : p ≠ []) (ht : t.isScalar = true)
    (hsub : sub.isScalar = true) : (t.replace p sub).isScalar = true := by
  obtain ⟨hlead, hrest⟩ := isScalar_of_cut (anchored_exactly hp) ht
  exact isScalar_render.mpr ⟨hlead, fun q hq => ⟨hsub, hrest q hq⟩⟩

end Text

open Text

/-! ### Numerals -/

theorem Numeral.isScalar_ofNat (n : Nat) : (Numeral.ofNat n).isScalar = true := isScalar_map_char _

theorem Numeral.isScalar_hex (width n : Nat) : (Numeral.hex width n).isScalar = true := by
  simp [Numeral.hex, isScalar_replicate_char]

theorem Digest.isScalar_sha256 (message : List UInt8) : (Digest.sha256 message).isScalar = true :=
  isScalar_flatMap.mpr fun _ _ => Numeral.isScalar_hex _ _

/-! ### Escapes -/

namespace Escape

theorem isScalar_protect {t : Text} (ht : t.isScalar = true) : (protect t).isScalar = true :=
  isScalar_replace (by decide) (isScalar_replace (by decide) ht (by decide)) (by decide)

theorem isScalar_unescape {t : Text} (ht : t.isScalar = true) : (unescape t).isScalar = true :=
  isScalar_replace (by decide) (isScalar_replace (by decide) ht (by decide)) (by decide)

end Escape

/-! ### Tokens and shapes -/

namespace Token

variable {bare : Bool} {k : Token}

theorem Spelled.isScalar_raw (h : k.Spelled bare) : k.raw.isScalar = true :=
  isScalar_iff_notMem.mpr fun _ => h.isToken.notMem rfl (by simp) (by simp)

end Token

theorem IsKey.isScalar {key : Text} (h : IsKey key) : key.isScalar = true :=
  isScalar_iff_notMem.mpr fun n hn => by
    simpa [CodePoint.isKeyChar, CodePoint.isLetter, CodePoint.isDigit] using h.2 _ hn

theorem TokenKind.isScalar_name (kind : TokenKind) : kind.name.isScalar = true := by
  cases kind <;> rfl

theorem TokenKind.isScalar_token (kind : TokenKind) {key : Text} (h : key.isScalar = true) :
    (kind.token key).isScalar = true := by
  cases kind <;> simp [TokenKind.token, explicitToken, openBraces, closeBraces, h,
    TokenKind.isScalar_name]

theorem Token.Spelled.isScalar_key {bare : Bool} {k : Token} (h : k.Spelled bare) :
    k.key.isScalar = true := by
  cases h with
  | prefixed h => exact h.2.1.isScalar
  | whole _ _ hkey => exact hkey ▸ TokenKind.isScalar_name _
  | bare _ _ _ h => exact h.1.isScalar

namespace SyntaxCheck

theorem isScalar_of_isBlank {blanks : Text} (h : ∀ c ∈ blanks, c.isBlank = true) :
    blanks.isScalar = true :=
  isScalar_iff.mpr fun c hc => CodePoint.isSurrogate_of_isBlank (h c hc)

theorem IsEmptyKeyword.isScalar {u : Text} (h : IsEmptyKeyword u) : u.isScalar = true := by
  obtain ⟨w, blanks, ⟨kind, hkind⟩, hall, rfl⟩ := h
  have hblank (n : Fin 2048) : (CodePoint.surrogate n).isAsciiBlank = false :=
    Bool.eq_false_iff.mpr fun hb => by
      simpa using
        CodePoint.isSurrogate_of_isBlank (CodePoint.isBlank_of_isAsciiBlank hb)
  have hbody : Text.isScalar (w ++ [.char ':'] ++ blanks) = true := isScalar_iff_notMem.mpr fun n =>
    notMem_keyword_blanks hkind hall rfl (by simp) (hblank n)
  simpa [openBraces, closeBraces] using hbody

theorem IsEmptyBraces.isScalar {u : Text} (h : IsEmptyBraces u) : u.isScalar = true := by
  obtain ⟨blanks, hall, rfl⟩ := h
  simp [openBraces, closeBraces, isScalar_of_isBlank hall]

end SyntaxCheck

end PromptTemplate
