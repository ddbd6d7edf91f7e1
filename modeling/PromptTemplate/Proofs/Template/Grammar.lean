import PromptTemplate.Template.Token
import PromptTemplate.Proofs.Text.Cut

/-!
# The grammar of tokens

A token is written in one of three forms: with a keyword and a key, as the word for all fields or all
notes, or bare, and it is read in the first of the forms that fits (`Token.Spelled`). `Token.at?` finds
at the head of a text exactly the tokens that are spelled there (`at?_eq_some_iff`).

Between its braces a token holds no brace and at least one code point, so no token reaches into a pair
of opening braces that begins after its own (`IsToken.prefix_of_prefix_append`): tokens never overlap
(`Token.Spelled.append_eq_append_iff`).
-/

namespace PromptTemplate

open Text

/-! ### Key characters -/

namespace CodePoint

theorem isKeyChar_of_toLowerAscii {c : CodePoint} (h : c.toLowerAscii.isKeyChar = true) :
    c.isKeyChar = true := by
  cases c with
  | surrogate n => exact h
  | char c =>
    by_cases hc : c.isUpper = true
    · have halpha : c.isAlpha = true := (Bool.or_eq_true _ _).mpr (.inl hc)
      simp [isKeyChar, isLetter, halpha]
    · have hlow : c.toLower = c := dif_neg fun hupper => hc (decide_eq_true hupper)
      rwa [toLowerAscii, hlow] at h

/-- A code point that may stand between the braces of a token. -/
def isInner (c : CodePoint) : Bool := c.isKeyChar || c = .char ':'

theorem isInner_of_isKeyChar {c : CodePoint} (h : c.isKeyChar = true) : c.isInner = true := by
  simp [isInner, h]

end CodePoint

/-- A word that lower-cases to key characters consists of key characters. -/
theorem isKeyChar_of_toLowerAscii_eq {w name : Text} (hname : ∀ c ∈ name, c.isKeyChar = true)
    (hw : w.toLowerAscii = name) : ∀ c ∈ w, c.isKeyChar = true := by
  intro c hc
  refine CodePoint.isKeyChar_of_toLowerAscii (hname _ ?_)
  rw [← hw]
  exact List.mem_map_of_mem hc

/-! ### The three forms -/

/-- A keyword in any ASCII case, a colon and a key. -/
def IsPrefixed (kind : TokenKind) (key u : Text) : Prop :=
  kind ∈ [.field, .sectionFields, .sectionNotes] ∧ IsKey key ∧
    ∃ w : Text, w.toLowerAscii = kind.name ∧ u = explicitToken w key

/-- The word for all fields or for all notes in any ASCII case. -/
def IsWhole (kind : TokenKind) (u : Text) : Prop :=
  ∃ w : Text, u = openBraces ++ w ++ closeBraces ∧
    ((kind = .allFields ∧ w.toLowerAscii = "fields_json") ∨
      (kind = .allNotes ∧ w.toLowerAscii = "notes_json"))

/-- A key alone. -/
def IsBare (key u : Text) : Prop := IsKey key ∧ u = openBraces ++ key ++ closeBraces

/-- A text that is a token from end to end. -/
def IsToken (bare : Bool) (u : Text) : Prop :=
  (∃ kind key, IsPrefixed kind key u) ∨ (∃ kind, IsWhole kind u) ∨
    (bare = true ∧ ∃ key, IsBare key u)

/-- The token says what its text spells, in the first form that the text has. -/
inductive Token.Spelled (bare : Bool) (k : Token) : Prop
  | prefixed (h : IsPrefixed k.kind k.key k.raw)
  | whole (hp : ∀ kind key, ¬ IsPrefixed kind key k.raw) (h : IsWhole k.kind k.raw)
      (hkey : k.key = k.kind.name)
  | bare (hb : bare = true) (hp : ∀ kind key, ¬ IsPrefixed kind key k.raw)
      (hw : ∀ kind, ¬ IsWhole kind k.raw) (h : IsBare k.key k.raw) (hkind : k.kind = .field)

theorem Token.Spelled.isToken {bare : Bool} {k : Token} (h : k.Spelled bare) : IsToken bare k.raw := by
  cases h with
  | prefixed h => exact .inl ⟨_, _, h⟩
  | whole _ h _ => exact .inr (.inl ⟨_, h⟩)
  | bare hb _ _ h _ => exact .inr (.inr ⟨hb, _, h⟩)

/-! ### What stands between the braces -/

theorem isKeyChar_of_mem_name {kind : TokenKind} : ∀ c ∈ kind.name, c.isKeyChar = true := by
  cases kind <;> decide

theorem isKeyChar_of_isWhole_word {kind : TokenKind} {w : Text}
    (h : (kind = .allFields ∧ w.toLowerAscii = "fields_json") ∨
      (kind = .allNotes ∧ w.toLowerAscii = "notes_json")) :
    ∀ c ∈ w, c.isKeyChar = true := by
  rcases h with ⟨-, h⟩ | ⟨-, h⟩
  · exact isKeyChar_of_toLowerAscii_eq (by decide) h
  · exact isKeyChar_of_toLowerAscii_eq (by decide) h

theorem IsToken.exists_inner {bare : Bool} {u : Text} (h : IsToken bare u) :
    ∃ body, u = openBraces ++ body ++ closeBraces ∧ body ≠ [] ∧ ∀ c ∈ body, c.isInner = true := by
  rcases h with ⟨kind, key, -, hkey, w, hw, rfl⟩ | ⟨kind, w, rfl, hw⟩ | ⟨-, key, hkey, rfl⟩
  · refine ⟨w ++ [.char ':'] ++ key, by simp [explicitToken], by simp, fun c hc => ?_⟩
    simp only [List.append_assoc, List.mem_append, List.mem_singleton] at hc
    rcases hc with hc | rfl | hc
    · have hwc := isKeyChar_of_toLowerAscii_eq isKeyChar_of_mem_name hw c hc
      exact CodePoint.isInner_of_isKeyChar hwc
    · decide
    · exact CodePoint.isInner_of_isKeyChar (hkey.2 c hc)
  · have hinner : ∀ c ∈ w, c.isInner = true := fun c hc =>
      CodePoint.isInner_of_isKeyChar (isKeyChar_of_isWhole_word hw c hc)
    refine ⟨w, rfl, ?_, hinner⟩
    rintro rfl
    rcases hw with ⟨-, hw⟩ | ⟨-, hw⟩ <;> exact absurd hw (by decide)
  · exact ⟨key, rfl, hkey.1, fun c hc => CodePoint.isInner_of_isKeyChar (hkey.2 c hc)⟩

/-- A token consists of braces and of what may stand between them. -/
theorem IsToken.notMem {bare : Bool} {u : Text} (h : IsToken bare u) {c : CodePoint}
    (hc : c.isInner = false) (ho : c ≠ .char '{') (hcl : c ≠ .char '}') : c ∉ u := by
  obtain ⟨body, rfl, -, hbody⟩ := h.exists_inner
  intro hm
  have hmem : c ∈ body := by simpa [openBraces, closeBraces, ho, hcl] using hm
  exact absurd (hbody c hmem) (by simp [hc])

theorem IsToken.ne_nil {bare : Bool} {u : Text} (h : IsToken bare u) : u ≠ [] := by
  obtain ⟨body, rfl, -, -⟩ := h.exists_inner
  simp [openBraces]

/-- Two pairs of braces with no brace between them. -/
def IsBraced (u : Text) : Prop :=
  ∃ body, u = openBraces ++ body ++ closeBraces ∧ .char '{' ∉ body ∧ .char '}' ∉ body

/-- Braced text at the head of a text ends before the next pair of opening braces. -/
theorem IsBraced.prefix_of_prefix_append {u w v : Text} (hu : IsBraced u) (hw : w ≠ [])
    (h : u <+: w ++ (openBraces ++ v)) : u <+: w := by
  obtain ⟨body, rfl, hopen, -⟩ := hu
  rcases List.prefix_or_prefix_of_prefix h (List.prefix_append w _) with h' | ⟨x, hx⟩
  · exact h'
  -- `x` is what would reach into the second pair of braces
  rw [← hx, List.prefix_append_right_inj] at h
  have hbrace : CodePoint.char '{' ∉ body ++ closeBraces := by simp [closeBraces, hopen]
  cases x with
  | nil =>
    have hxw : w = openBraces ++ body ++ closeBraces := by rw [← hx, List.append_nil]
    exact hxw ▸ List.prefix_rfl
  | cons d x =>
    obtain ⟨rfl, hxv⟩ := List.cons_prefix_cons.mp h
    exfalso
    match w, hw with
    | [c], _ =>
      obtain ⟨-, hx⟩ := List.cons.inj hx
      obtain ⟨-, rfl⟩ := List.cons.inj hx
      cases body with
      | nil => exact absurd (List.cons_prefix_cons.mp hxv).1 (by decide)
      | cons b body =>
        obtain ⟨rfl, -⟩ := List.cons_prefix_cons.mp hxv
        exact hbrace (List.mem_cons_self ..)
    | c :: c' :: w, _ =>
      obtain ⟨-, hx⟩ := List.cons.inj hx
      have hx : w ++ .char '{' :: x = body ++ closeBraces := (List.cons.inj hx).2
      exact hbrace (hx ▸ List.mem_append_right _ (List.mem_cons_self ..))

/-- At the head of a text stands one braced text at most. -/
theorem IsBraced.eq_of_prefix_append {u u' v : Text} (hu : IsBraced u) (hu' : IsBraced u')
    (h : u <+: u' ++ v) : u = u' := by
  obtain ⟨body, rfl, -, hclose⟩ := hu
  obtain ⟨body', rfl, -, hclose'⟩ := hu'
  obtain ⟨y, hy⟩ := h
  have hbody : ∀ b z : Text, .char '}' ∉ b →
      (b ++ (closeBraces ++ z)).takeWhile (· ≠ .char '}') = b := by
    intro b z hb
    have hne : ∀ c ∈ b, decide (c ≠ CodePoint.char '}') = true := fun c hc =>
      decide_eq_true fun he => hb (he ▸ hc)
    rw [List.takeWhile_append_of_pos hne]
    simp [closeBraces]
  have hcut : body ++ (closeBraces ++ y) = body' ++ (closeBraces ++ v) := by
    simpa only [List.append_assoc, List.append_cancel_left_eq] using hy
  rw [← hbody body y hclose, hcut, hbody body' v hclose']

/-- No other pair of opening braces begins inside a braced text. -/
theorem IsBraced.eq_or_not_openBraces_prefix {u w : Text} (hu : IsBraced u) (hw : w <:+ u) (hne : w ≠ [])
    (v : Text) : w = u ∨ ¬ openBraces <+: w ++ v := by
  obtain ⟨body, rfl, hopen, -⟩ := hu
  obtain ⟨d, r, hr⟩ := List.exists_cons_of_ne_nil (show body ++ closeBraces ≠ [] by simp [closeBraces])
  have hcons : openBraces ++ body ++ closeBraces = .char '{' :: .char '{' :: d :: r := by
    rw [List.append_assoc, hr]
    rfl
  have hinner : CodePoint.char '{' ∉ d :: r := by
    rw [← hr]
    simp [closeBraces, hopen]
  rw [hcons] at hw ⊢
  rw [List.suffix_cons_iff, List.suffix_cons_iff] at hw
  rcases hw with hw | rfl | hw
  · exact .inl hw
  · refine .inr fun h => hinner ?_
    obtain rfl : CodePoint.char '{' = d := by simpa [openBraces] using h
    exact List.mem_cons_self ..
  · refine .inr fun h => hinner ?_
    obtain ⟨c, w, rfl⟩ := List.exists_cons_of_ne_nil hne
    obtain ⟨rfl, -⟩ := List.cons_prefix_cons.mp h
    exact hw.mem (List.mem_cons_self ..)

/-- **Two braced texts in one text** are the same at one place, or one ends before the other begins. -/
theorem IsBraced.apart {u u' a b a' b' : Text} (hu : IsBraced u) (hu' : IsBraced u')
    (h : a ++ (u ++ b) = a' ++ (u' ++ b')) :
    (a = a' ∧ u = u') ∨ a.length + u.length ≤ a'.length ∨ a'.length + u'.length ≤ a.length := by
  -- the one that begins first ends before the opening braces of the other
  have hends : ∀ {u u' a b a' b' w : Text}, IsBraced u → IsBraced u' → a ++ (u ++ b) = a' ++ (u' ++ b') →
      a' = a ++ w → w ≠ [] → a.length + u.length ≤ a'.length := by
    intro u u' a b a' b' w hu hu' h ha hw
    obtain ⟨body, hbody, -⟩ := hu'
    rw [ha, List.append_assoc, List.append_cancel_left_eq] at h
    have hpre : u <+: w ++ (openBraces ++ (body ++ closeBraces ++ b')) := by
      refine ⟨b, h.trans ?_⟩
      rw [hbody]
      simp only [List.append_assoc]
    have hlen := (hu.prefix_of_prefix_append hw hpre).length_le
    rw [ha, List.length_append]
    omega
  rcases List.append_eq_append_iff.mp h with ⟨w, ha, hrest⟩ | ⟨w, ha, hrest⟩
  · by_cases hw : w = []
    · subst hw
      rw [List.append_nil] at ha
      exact .inl ⟨ha.symm, hu.eq_of_prefix_append hu' ⟨b, hrest⟩⟩
    · exact .inr (.inl (hends hu hu' h ha hw))
  · by_cases hw : w = []
    · subst hw
      rw [List.append_nil] at ha
      exact .inl ⟨ha, (hu'.eq_of_prefix_append hu ⟨b', hrest⟩).symm⟩
    · exact .inr (.inr (hends hu' hu h.symm ha hw))

theorem IsToken.isBraced {bare : Bool} {u : Text} (h : IsToken bare u) : IsBraced u := by
  obtain ⟨body, rfl, -, hbody⟩ := h.exists_inner
  exact ⟨body, rfl, fun hm => absurd (hbody _ hm) (by decide), fun hm => absurd (hbody _ hm) (by decide)⟩

/-- **Tokens do not overlap**: a token at the head of a text ends before the next pair of opening braces. -/
theorem IsToken.prefix_of_prefix_append {bare : Bool} {u w v : Text} (hu : IsToken bare u) (hw : w ≠ [])
    (h : u <+: w ++ (openBraces ++ v)) : u <+: w :=
  hu.isBraced.prefix_of_prefix_append hw h

/-! ### The token at the head of a text -/

namespace TokenKind

theorem ofKeyword?_eq_some_iff {w : Text} {kind : TokenKind} :
    ofKeyword? w = some kind ↔
      kind ∈ [.field, .sectionFields, .sectionNotes] ∧ w.toLowerAscii = kind.name := by
  unfold ofKeyword?
  generalize w.toLowerAscii = x
  constructor
  · intro h
    exact ⟨List.mem_of_find?_eq_some h, (by simpa using List.find?_some h : kind.name = x).symm⟩
  · rintro ⟨hk, rfl⟩
    simp only [List.mem_cons, List.not_mem_nil, or_false] at hk
    rcases hk with rfl | rfl | rfl <;> decide

theorem ofWord?_eq_some_iff {w : Text} {kind : TokenKind} :
    ofWord? w = some kind ↔
      (kind = .allFields ∧ w.toLowerAscii = "fields_json") ∨
        (kind = .allNotes ∧ w.toLowerAscii = "notes_json") := by
  unfold ofWord?
  generalize w.toLowerAscii = x
  have hne : Text.ofString "notes_json" ≠ "fields_json" := by decide
  by_cases hf : x = "fields_json"
  · simp [hf, hne.symm, @eq_comm _ kind]
  by_cases hn : x = "notes_json"
  · simp [hn, hne, @eq_comm _ kind]
  · simp [hf, hn]

end TokenKind

namespace Token

variable {bare : Bool} {w key u : Text}

theorem not_isPrefixed_word (hw : ∀ c ∈ w, c.isKeyChar = true) {kind : TokenKind} :
    ¬ IsPrefixed kind key (openBraces ++ w ++ closeBraces) := by
  rintro ⟨-, -, w', -, h⟩
  have hm : CodePoint.char ':' ∈ openBraces ++ w ++ closeBraces := by simp [h, explicitToken]
  simp only [openBraces, closeBraces, List.mem_append] at hm
  rcases hm with (hm | hm) | hm
  · exact absurd hm (by decide)
  · exact absurd (hw _ hm) (by decide)
  · exact absurd hm (by decide)

theorem isWhole_word_iff {kind : TokenKind} :
    IsWhole kind (openBraces ++ w ++ closeBraces) ↔ TokenKind.ofWord? w = some kind := by
  simp [IsWhole, TokenKind.ofWord?_eq_some_iff]

theorem ofWord?_eq_some_iff {k : Token} (hw : ∀ c ∈ w, c.isKeyChar = true) :
    ofWord? bare w = some k ↔ k.Spelled bare ∧ k.raw = openBraces ++ w ++ closeBraces := by
  obtain ⟨kind, key, raw⟩ := k
  unfold ofWord?
  cases hkind : TokenKind.ofWord? w with
  | some kind' =>
    simp only [Option.some.injEq, Token.mk.injEq]
    constructor
    · rintro ⟨rfl, rfl, rfl⟩
      exact ⟨.whole (fun _ _ => not_isPrefixed_word hw) (isWhole_word_iff.mpr hkind) rfl, rfl⟩
    · rintro ⟨hs, rfl⟩
      cases hs with
      | prefixed h => exact absurd h (not_isPrefixed_word hw)
      | whole _ h hkey =>
        obtain rfl := Option.some.inj (hkind.symm.trans (isWhole_word_iff.mp h))
        exact ⟨rfl, hkey.symm, rfl⟩
      | bare _ _ hnot _ _ => exact absurd (isWhole_word_iff.mpr hkind) (hnot _)
  | none =>
    have hnot : ∀ kind, ¬ IsWhole kind (openBraces ++ w ++ closeBraces) := by
      intro kind h
      simp [isWhole_word_iff.mp h] at hkind
    simp only [Option.ite_none_right_eq_some, Bool.and_eq_true, Bool.not_eq_true',
      List.isEmpty_eq_false_iff, Option.some.injEq, Token.mk.injEq]
    constructor
    · rintro ⟨⟨hb, hne⟩, rfl, rfl, rfl⟩
      exact ⟨.bare hb (fun _ _ => not_isPrefixed_word hw) hnot ⟨⟨hne, hw⟩, rfl⟩ rfl, rfl⟩
    · rintro ⟨hs, rfl⟩
      cases hs with
      | prefixed h => exact absurd h (not_isPrefixed_word hw)
      | whole _ h _ => exact absurd h (hnot _)
      | bare hb _ _ h hkind =>
        obtain rfl : w = key := by simpa using h.2
        exact ⟨⟨hb, h.1.1⟩, hkind.symm, rfl, rfl⟩

/-- The head of a text with a word between braces. -/
theorem at?_word (hw : ∀ c ∈ w, c.isKeyChar = true) (u : Text) :
    at? bare (openBraces ++ w ++ closeBraces ++ u) = ofWord? bare w := by
  have hstop : CodePoint.isKeyChar (.char '}') = false := by decide
  simp [at?, openBraces, closeBraces, List.takeWhile_append_of_pos hw, List.dropWhile_append_of_pos hw, hstop]

/-- The head of a text with a word, a colon and a key between braces. -/
theorem at?_explicitToken (hw : ∀ c ∈ w, c.isKeyChar = true) (hkey : IsKey key) (u : Text) :
    at? bare (explicitToken w key ++ u) =
      (TokenKind.ofKeyword? w).map fun kind => ⟨kind, key, explicitToken w key⟩ := by
  have hclose : CodePoint.isKeyChar (.char '}') = false := by decide
  have hcolon : CodePoint.isKeyChar (.char ':') = false := by decide
  have hne : key.isEmpty = false := by simpa using hkey.1
  cases h : TokenKind.ofKeyword? w <;>
    simp [at?, explicitToken, openBraces, closeBraces, List.takeWhile_append_of_pos hw,
      List.dropWhile_append_of_pos hw, List.takeWhile_append_of_pos hkey.2,
      List.dropWhile_append_of_pos hkey.2, hclose, hcolon, hne, h]

theorem at?_eq_some_of_spelled {k : Token} (h : k.Spelled bare) (u : Text) :
    at? bare (k.raw ++ u) = some k := by
  have hword : ∀ w, (∀ c ∈ w, c.isKeyChar = true) → k.raw = openBraces ++ w ++ closeBraces →
      at? bare (k.raw ++ u) = some k := by
    intro w hw hraw
    rw [hraw, at?_word hw, ofWord?_eq_some_iff hw]
    exact ⟨h, hraw⟩
  cases h with
  | prefixed h =>
    obtain ⟨hkind, hkey, w, hw, hraw⟩ := h
    have hwk : ∀ c ∈ w, c.isKeyChar = true := isKeyChar_of_toLowerAscii_eq isKeyChar_of_mem_name hw
    rw [hraw, at?_explicitToken hwk hkey, TokenKind.ofKeyword?_eq_some_iff.mpr ⟨hkind, hw⟩, ← hraw]
    rfl
  | whole _ h _ =>
    obtain ⟨w, hraw, hw⟩ := h
    exact hword w (isKeyChar_of_isWhole_word hw) hraw
  | bare _ _ _ h _ => exact hword k.key h.1.2 h.2

theorem spelled_of_at?_eq_some {k : Token} {t : Text} (h : at? bare t = some k) :
    k.Spelled bare ∧ k.raw <+: t := by
  have hkey : ∀ {v : Text}, ∀ c ∈ v.takeWhile CodePoint.isKeyChar, c.isKeyChar = true :=
    List.all_eq_true.mp List.all_takeWhile
  unfold at? at h
  split at h
  · rename_i t
    have ht := List.takeWhile_append_dropWhile (p := CodePoint.isKeyChar) (l := t)
    dsimp only at h
    split at h
    · rename_i rest hrest
      obtain ⟨hk, hraw⟩ := (ofWord?_eq_some_iff hkey).mp h
      refine ⟨hk, rest, ?_⟩
      rw [hrest] at ht
      rw [hraw, List.append_assoc, List.append_assoc]
      exact congrArg (openBraces ++ ·) ht
    · rename_i v hv
      have hv' := List.takeWhile_append_dropWhile (p := CodePoint.isKeyChar) (l := v)
      split at h
      · rename_i kind rest hkind hrest
        simp only [Option.ite_none_left_eq_some, Option.some.injEq, Bool.not_eq_true,
          List.isEmpty_eq_false_iff] at h
        obtain ⟨hne, rfl⟩ := h
        obtain ⟨hmem, hlow⟩ := TokenKind.ofKeyword?_eq_some_iff.mp hkind
        refine ⟨.prefixed ⟨hmem, ⟨hne, hkey⟩, _, hlow, rfl⟩, rest, ?_⟩
        rw [hrest] at hv'
        rw [hv, ← hv'] at ht
        simp only [List.append_assoc]
        exact congrArg (openBraces ++ ·) ht
      · cases h
    · cases h
  · cases h

/-- **The token at the head of a text** is the one that is spelled there. -/
theorem at?_eq_some_iff {k : Token} {t : Text} : at? bare t = some k ↔ k.Spelled bare ∧ k.raw <+: t := by
  refine ⟨spelled_of_at?_eq_some, ?_⟩
  rintro ⟨h, u, rfl⟩
  exact at?_eq_some_of_spelled h u

theorem anchored_at? : Anchored (at? bare) raw := by
  intro t k h
  obtain ⟨hk, hpre⟩ := at?_eq_some_iff.mp h
  exact ⟨hk.isToken.ne_nil, hpre⟩

/-- In a text with a token at its head, any token is that one or begins after the whole of it. -/
theorem Spelled.append_eq_append_iff {k k' : Token} (h : k.Spelled bare) (h' : k'.Spelled bare)
    {a b t : Text} :
    k.raw ++ t = a ++ (k'.raw ++ b) ↔
      (a = [] ∧ k' = k ∧ b = t) ∨ ∃ a', a = k.raw ++ a' ∧ t = a' ++ (k'.raw ++ b) := by
  constructor
  · intro e
    by_cases ha : a = []
    · subst ha
      have hat := at?_eq_some_of_spelled h t
      rw [e, List.nil_append, at?_eq_some_of_spelled h' b] at hat
      obtain rfl : k' = k := Option.some.inj hat
      exact .inl ⟨rfl, rfl, (List.append_cancel_left e).symm⟩
    · obtain ⟨body, hbody, -⟩ := h'.isToken.exists_inner
      have hpre : k.raw <+: a := by
        refine h.isToken.prefix_of_prefix_append (v := body ++ closeBraces ++ b) ha ⟨t, ?_⟩
        rw [e, hbody]
        simp only [List.append_assoc]
      obtain ⟨a, rfl⟩ := hpre
      rw [List.append_assoc, List.append_cancel_left_eq] at e
      exact .inr ⟨a, rfl, e⟩
  · rintro (⟨rfl, rfl, rfl⟩ | ⟨a, rfl, rfl⟩)
    · rfl
    · exact (List.append_assoc ..).symm

end Token

theorem isToken_iff_exists_spelled {bare : Bool} {u : Text} :
    IsToken bare u ↔ ∃ k : Token, k.Spelled bare ∧ k.raw = u := by
  constructor
  · rintro (⟨kind, key, h⟩ | ⟨kind, h⟩ | ⟨hb, key, h⟩)
    · exact ⟨⟨kind, key, u⟩, .prefixed h, rfl⟩
    · obtain ⟨w, rfl, hw⟩ := id h
      have hp : ∀ kind key, ¬ IsPrefixed kind key (openBraces ++ w ++ closeBraces) := fun _ _ =>
        Token.not_isPrefixed_word (isKeyChar_of_isWhole_word hw)
      exact ⟨⟨kind, kind.name, _⟩, .whole hp h rfl, rfl⟩
    · obtain ⟨hkey, rfl⟩ := id h
      have hp : ∀ kind key', ¬ IsPrefixed kind key' (openBraces ++ key ++ closeBraces) := fun _ _ =>
        Token.not_isPrefixed_word hkey.2
      by_cases hw : ∃ kind, IsWhole kind (openBraces ++ key ++ closeBraces)
      · obtain ⟨kind, hw⟩ := hw
        exact ⟨⟨kind, kind.name, _⟩, .whole hp hw rfl, rfl⟩
      · exact ⟨⟨.field, key, _⟩, .bare hb hp (not_exists.mp hw) h rfl, rfl⟩
  · rintro ⟨k, hk, rfl⟩
    exact hk.isToken

end PromptTemplate
