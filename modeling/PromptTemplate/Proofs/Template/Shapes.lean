import PromptTemplate.Template.SyntaxCheck
import PromptTemplate.Proofs.Template.Grammar

/-!
# Empty shapes

An empty shape is a keyword with its colon and blanks between braces (`IsEmptyKeyword`), or blanks alone
(`IsEmptyBraces`), and both patterns find exactly these (`emptyKeyword?_eq_some_iff`,
`emptyBraces?_eq_some_iff`). What stands before the closing braces tells shapes from tokens: in a token it
is a key character, in a shape it never is. So a token is no shape, and as braced texts do not overlap it
takes part in none. With the pairs of braces counted apart from what stands between them, the syntax
of a template does not depend on which tokens stand in it (`faults_replace_token`).
-/

namespace PromptTemplate

open Text

namespace CodePoint

theorem toNat_of_isInner {c : CodePoint} (h : c.isInner = true) : 45 ≤ c.toNat ∧ c.toNat ≤ 122 := by
  cases c with
  | surrogate n => simp [isInner, isKeyChar, isLetter, isDigit] at h
  | char c =>
    have hwithin : ∀ {lo hi : UInt32}, lo ≤ c.val ∧ c.val ≤ hi → 45 ≤ lo.toNat → hi.toNat ≤ 122 →
        45 ≤ c.toNat ∧ c.toNat ≤ 122 := fun hc hlo hhi =>
      ⟨Nat.le_trans hlo (UInt32.le_iff_toNat_le.mp hc.1), Nat.le_trans (UInt32.le_iff_toNat_le.mp hc.2) hhi⟩
    simp only [isInner, isKeyChar, isLetter, isDigit, Bool.or_eq_true, decide_eq_true_eq, char.injEq] at h
    rcases h with (((h | h) | rfl) | rfl) | rfl
    · rcases (Bool.or_eq_true _ _).mp h with hupper | hlower
      · have hbounds : 'A'.val ≤ c.val ∧ c.val ≤ 'Z'.val := of_decide_eq_true hupper
        exact hwithin hbounds (by decide) (by decide)
      · obtain ⟨hlo, hhi⟩ := (Bool.and_eq_true _ _).mp hlower
        exact hwithin ⟨of_decide_eq_true hlo, of_decide_eq_true hhi⟩ (by decide) (by decide)
    · obtain ⟨hlo, hhi⟩ := (Bool.and_eq_true _ _).mp h
      exact hwithin ⟨of_decide_eq_true hlo, of_decide_eq_true hhi⟩ (by decide) (by decide)
    all_goals decide

/-- No blank may stand between the braces of a token. -/
theorem isBlank_of_isInner {c : CodePoint} (h : c.isInner = true) : c.isBlank = false := by
  obtain ⟨hlo, hhi⟩ := toNat_of_isInner h
  rw [Bool.eq_false_iff]
  intro hb
  simp only [isBlank, isWhiteSpace, inRanges, List.any_cons, List.any_nil, Bool.or_eq_true,
    Bool.and_eq_true, decide_eq_true_eq, Bool.or_false] at hb
  omega

theorem isLetter_of_toLowerAscii {c : CodePoint} (h : c.toLowerAscii.isLetter = true) :
    c.isLetter = true := by
  cases c with
  | surrogate n => exact h
  | char c =>
    by_cases hc : c.isUpper = true
    · exact (Bool.or_eq_true _ _).mpr (.inl hc)
    · have hlow : c.toLower = c := dif_neg fun hupper => hc (decide_eq_true hupper)
      rwa [toLowerAscii, hlow] at h

end CodePoint

namespace SyntaxCheck

/-! ### The shapes -/

/-- A keyword in any ASCII case, a colon and blanks. -/
def IsEmptyKeyword (u : Text) : Prop :=
  ∃ w blanks : Text, (∃ kind, TokenKind.ofKeyword? w = some kind) ∧
    (∀ c ∈ blanks, c.isAsciiBlank = true) ∧ u = openBraces ++ w ++ [.char ':'] ++ blanks ++ closeBraces

/-- Blanks of any kind alone. -/
def IsEmptyBraces (u : Text) : Prop :=
  ∃ blanks : Text, (∀ c ∈ blanks, c.isBlank = true) ∧ u = openBraces ++ blanks ++ closeBraces

theorem blankThenClose?_eq_some_iff {blank : CodePoint → Bool} (hb : blank (.char '}') = false)
    {t x : Text} :
    blankThenClose? blank t = some x ↔
      ∃ blanks, (∀ c ∈ blanks, blank c = true) ∧ x = blanks ++ closeBraces ∧ x <+: t := by
  unfold blankThenClose?
  rw [Option.ite_none_right_eq_some, List.isPrefixOf_iff_prefix]
  constructor
  · rintro ⟨⟨v, hv⟩, hx⟩
    refine ⟨_, List.all_eq_true.mp List.all_takeWhile, (Option.some.inj hx).symm, v, ?_⟩
    rw [← Option.some.inj hx, List.append_assoc, hv, List.takeWhile_append_dropWhile]
  · rintro ⟨blanks, hall, rfl, v, rfl⟩
    rw [List.append_assoc, List.takeWhile_append_of_pos hall, List.dropWhile_append_of_pos hall]
    simp [closeBraces, hb]

theorem isLetter_of_ofKeyword? {w : Text} {kind : TokenKind} (h : TokenKind.ofKeyword? w = some kind) :
    ∀ c ∈ w, c.isLetter = true := by
  obtain ⟨hkind, hlow⟩ := TokenKind.ofKeyword?_eq_some_iff.mp h
  have hname : ∀ c ∈ kind.name, c.isLetter = true := by
    simp only [List.mem_cons, List.not_mem_nil, or_false] at hkind
    rcases hkind with rfl | rfl | rfl <;> decide
  intro c hc
  refine CodePoint.isLetter_of_toLowerAscii (hname _ ?_)
  rw [← hlow]
  exact List.mem_map_of_mem hc

theorem emptyKeyword?_eq_some_iff {t x : Text} :
    emptyKeyword? t = some x ↔ IsEmptyKeyword x ∧ x <+: t := by
  constructor
  · intro h
    unfold emptyKeyword? at h
    split at h
    · rename_i t
      dsimp only at h
      split at h
      · rename_i kind u hkind hu
        obtain ⟨tail, htail, rfl⟩ := Option.map_eq_some_iff.mp h
        obtain ⟨blanks, hall, rfl, v, rfl⟩ := (blankThenClose?_eq_some_iff (by decide)).mp htail
        refine ⟨⟨_, blanks, ⟨kind, hkind⟩, hall, by simp⟩, v, ?_⟩
        have ht := List.takeWhile_append_dropWhile (p := CodePoint.isLetter) (l := t)
        rw [hu] at ht
        simp only [List.append_assoc] at ht ⊢
        exact congrArg (openBraces ++ ·) ht
      · cases h
    · cases h
  · rintro ⟨⟨w, blanks, ⟨kind, hkind⟩, hall, rfl⟩, v, rfl⟩
    have hw := isLetter_of_ofKeyword? hkind
    have hcolon : CodePoint.isLetter (.char ':') = false := by decide
    have htail : blankThenClose? CodePoint.isAsciiBlank (blanks ++ closeBraces ++ v) =
        some (blanks ++ closeBraces) :=
      (blankThenClose?_eq_some_iff (by decide)).mpr ⟨blanks, hall, rfl, List.prefix_append _ _⟩
    have happ : openBraces ++ w ++ [.char ':'] ++ blanks ++ closeBraces ++ v =
        .char '{' :: .char '{' :: (w ++ .char ':' :: (blanks ++ closeBraces ++ v)) := by
      simp [openBraces]
    have htake : (w ++ .char ':' :: (blanks ++ closeBraces ++ v)).takeWhile CodePoint.isLetter = w := by
      rw [List.takeWhile_append_of_pos hw]
      simp [hcolon]
    have hdrop : (w ++ .char ':' :: (blanks ++ closeBraces ++ v)).dropWhile CodePoint.isLetter =
        .char ':' :: (blanks ++ closeBraces ++ v) := by
      rw [List.dropWhile_append_of_pos hw]
      simp [hcolon]
    rw [happ, emptyKeyword?]
    simp only [htake, hdrop, hkind, htail, Option.map_some]
    simp

theorem emptyBraces?_eq_some_iff {t x : Text} :
    emptyBraces? t = some x ↔ IsEmptyBraces x ∧ x <+: t := by
  constructor
  · intro h
    unfold emptyBraces? at h
    split at h
    · obtain ⟨tail, htail, rfl⟩ := Option.map_eq_some_iff.mp h
      obtain ⟨blanks, hall, rfl, hpre⟩ := (blankThenClose?_eq_some_iff (by decide)).mp htail
      exact ⟨⟨blanks, hall, by simp⟩, (List.prefix_append_right_inj openBraces).mpr hpre⟩
    · cases h
  · rintro ⟨⟨blanks, hall, rfl⟩, v, rfl⟩
    have htail : blankThenClose? CodePoint.isBlank (blanks ++ closeBraces ++ v) =
        some (blanks ++ closeBraces) :=
      (blankThenClose?_eq_some_iff (by decide)).mpr ⟨blanks, hall, rfl, List.prefix_append _ _⟩
    have happ : openBraces ++ blanks ++ closeBraces ++ v =
        .char '{' :: .char '{' :: (blanks ++ closeBraces ++ v) := by
      simp [openBraces]
    rw [happ, emptyBraces?, htail]
    simp

/-! ### Shapes are no tokens -/

/-- Braced text with no key character before the closing braces. -/
def IsKeyless (u : Text) : Prop :=
  ∃ body, u = openBraces ++ body ++ closeBraces ∧ (.char '{' ∉ body ∧ .char '}' ∉ body) ∧
    ∀ c ∈ body.getLast?, c.isKeyChar = false

theorem IsKeyless.isBraced {u : Text} (h : IsKeyless u) : IsBraced u := by
  obtain ⟨body, rfl, hbody, -⟩ := h
  exact ⟨body, rfl, hbody⟩

theorem isKeyChar_of_isBlank {c : CodePoint} (h : c.isBlank = true) : c.isKeyChar = false := by
  refine Bool.eq_false_iff.mpr fun hk => ?_
  simp [CodePoint.isBlank_of_isInner (CodePoint.isInner_of_isKeyChar hk)] at h

theorem IsEmptyBraces.isKeyless {u : Text} (h : IsEmptyBraces u) : IsKeyless u := by
  obtain ⟨blanks, hall, rfl⟩ := h
  refine ⟨blanks, rfl,
    ⟨fun hm => absurd (hall _ hm) (by decide), fun hm => absurd (hall _ hm) (by decide)⟩,
    fun c hc => isKeyChar_of_isBlank (hall c (List.mem_of_getLast? hc))⟩

/-- Between the braces of an empty keyword stand letters, a colon and blanks. -/
theorem notMem_keyword_blanks {w blanks : Text} {kind : TokenKind} (hkind : TokenKind.ofKeyword? w = some kind)
    (hall : ∀ c ∈ blanks, c.isAsciiBlank = true) {b : CodePoint} (hl : b.isLetter = false)
    (hc : b ≠ .char ':') (hb : b.isAsciiBlank = false) : b ∉ w ++ [.char ':'] ++ blanks := by
  intro hm
  simp only [List.append_assoc, List.mem_append, List.mem_singleton] at hm
  rcases hm with hm | hm | hm
  · simp [isLetter_of_ofKeyword? hkind b hm] at hl
  · exact hc hm
  · simp [hall b hm] at hb

theorem IsEmptyKeyword.isKeyless {u : Text} (h : IsEmptyKeyword u) : IsKeyless u := by
  obtain ⟨w, blanks, ⟨kind, hkind⟩, hall, rfl⟩ := h
  refine ⟨w ++ [.char ':'] ++ blanks, by simp,
    ⟨notMem_keyword_blanks hkind hall (by decide) (by decide) (by decide),
      notMem_keyword_blanks hkind hall (by decide) (by decide) (by decide)⟩, fun c hc => ?_⟩
  rcases List.eq_nil_or_concat blanks with rfl | ⟨blanks, b, rfl⟩
  · obtain rfl : CodePoint.char ':' = c := by simpa using hc
    decide
  · have happ : w ++ [.char ':'] ++ blanks.concat b = (w ++ [.char ':'] ++ blanks) ++ [b] := by simp
    rw [happ, List.getLast?_concat] at hc
    obtain rfl : b = c := Option.some.inj hc
    exact isKeyChar_of_isBlank (CodePoint.isBlank_of_isAsciiBlank (hall b (by simp)))

/-- Before its closing braces a token has a key character. -/
theorem exists_getLast?_of_isToken {bare : Bool} {u : Text} (h : IsToken bare u) :
    ∃ body c, u = openBraces ++ body ++ closeBraces ∧ body.getLast? = some c ∧ c.isKeyChar = true := by
  have hkeys : ∀ w key : Text, key ≠ [] → (∀ c ∈ key, c.isKeyChar = true) →
      ∃ c, (w ++ key).getLast? = some c ∧ c.isKeyChar = true := by
    intro w key hne hall
    obtain ⟨c, hc⟩ := Option.isSome_iff_exists.mp (List.getLast?_isSome.mpr hne)
    exact ⟨c, by simp [List.getLast?_append, hc], hall c (List.mem_of_getLast? hc)⟩
  rcases h with ⟨kind, key, -, hkey, w, -, rfl⟩ | ⟨kind, w, rfl, hw⟩ | ⟨-, key, hkey, rfl⟩
  · obtain ⟨c, hc, hck⟩ := hkeys (w ++ [.char ':']) key hkey.1 hkey.2
    exact ⟨_, c, by simp [explicitToken], hc, hck⟩
  · have hne : w ≠ [] := by
      rintro rfl
      rcases hw with ⟨-, hw⟩ | ⟨-, hw⟩ <;> exact absurd hw (by decide)
    obtain ⟨c, hc, hck⟩ := hkeys [] w hne (isKeyChar_of_isWhole_word hw)
    exact ⟨w, c, rfl, hc, hck⟩
  · obtain ⟨c, hc, hck⟩ := hkeys [] key hkey.1 hkey.2
    exact ⟨key, c, rfl, hc, hck⟩

theorem IsKeyless.not_isToken {bare : Bool} {u : Text} (h : IsKeyless u) : ¬ IsToken bare u := by
  intro ht
  obtain ⟨body, rfl, -, hlast⟩ := h
  obtain ⟨body', c, hbody, hc, hck⟩ := exists_getLast?_of_isToken ht
  obtain rfl : body = body' := by simpa using hbody
  simp [hlast c hc] at hck

/-! ### Text without pairs of braces -/

theorem openBraces_prefix_of_emptyKeyword? {t x : Text} (h : emptyKeyword? t = some x) :
    openBraces <+: t := by
  obtain ⟨hx, hpre⟩ := emptyKeyword?_eq_some_iff.mp h
  obtain ⟨body, rfl, -⟩ := hx.isKeyless
  rw [List.append_assoc] at hpre
  exact (List.prefix_append _ _).trans hpre

theorem openBraces_prefix_of_emptyBraces? {t x : Text} (h : emptyBraces? t = some x) :
    openBraces <+: t := by
  obtain ⟨hx, hpre⟩ := emptyBraces?_eq_some_iff.mp h
  obtain ⟨body, rfl, -⟩ := hx.isKeyless
  rw [List.append_assoc] at hpre
  exact (List.prefix_append _ _).trans hpre

theorem count_eq_zero {p t : Text} (h : ¬ p <:+: t) : t.count p = 0 := by
  have hnil : (cut (exactly p) id t).hits = [] :=
    hits_cut_eq_nil (fun _ _ ha => (exactly_eq_some_iff.mp ha).2) h
  rw [Text.count, hnil, List.length_nil]

/-- Text without pairs of braces has no fault. -/
theorem faults_eq_nil {t : Text} (ho : ¬ openBraces <:+: t) (hc : ¬ closeBraces <:+: t) :
    faults t = [] := by
  have hkeyword : (t.cut emptyKeyword? id).hits = [] :=
    hits_cut_eq_nil (fun _ _ => openBraces_prefix_of_emptyKeyword?) ho
  have hbraces : (t.cut emptyBraces? id).hits = [] :=
    hits_cut_eq_nil (fun _ _ => openBraces_prefix_of_emptyBraces?) ho
  have hbalanced : isBalanced t = true := by
    rw [isBalanced, count_eq_zero ho, count_eq_zero hc]
    rfl
  have hshapes : emptyShapes t = [] := by
    rw [emptyShapes, hkeyword, hbraces]
    rfl
  rw [faults, hbalanced, hshapes]
  rfl

/-! ### A token leaves the syntax as it is -/

section Replace

variable {bare : Bool} {k k' : Token}

theorem anchored_of_isKeyless {match? : Text → Option Text} {Shape : Text → Prop}
    (hshape : ∀ x, Shape x → IsKeyless x) (hmatch : ∀ t x, match? t = some x ↔ Shape x ∧ x <+: t) :
    Anchored match? id := fun t x hx => by
  obtain ⟨hs, hpre⟩ := (hmatch t x).mp hx
  obtain ⟨body, rfl, -⟩ := hshape x hs
  exact ⟨by simp [openBraces], hpre⟩

/-- A pattern of shapes finds before and behind a token what it finds without it, and nothing else. -/
theorem hits_cut_append_token {match? : Text → Option Text} {Shape : Text → Prop}
    (hshape : ∀ x, Shape x → IsKeyless x) (hmatch : ∀ t x, match? t = some x ↔ Shape x ∧ x <+: t)
    (hk : k.Spelled bare) (u v : Text) :
    (Text.cut match? id (u ++ (k.raw ++ v))).hits =
      (Text.cut match? id u).hits ++ (Text.cut match? id v).hits := by
  have hanch := anchored_of_isKeyless hshape hmatch
  obtain ⟨body, hraw, hne, hbody⟩ := hk.isToken.exists_inner
  refine hits_cut_across hanch (fun w _ hw => ?_) (fun w hw hwne => ?_)
  · refine Option.ext fun x => ?_
    rw [hmatch, hmatch, hraw, List.append_assoc, List.append_assoc]
    refine and_congr_right fun hs => ⟨fun h => ?_, fun h => h.trans (List.prefix_append w _)⟩
    exact (hshape x hs).isBraced.prefix_of_prefix_append hw h
  · refine Option.eq_none_iff_forall_ne_some.mpr fun x hx => ?_
    obtain ⟨hs, hpre⟩ := (hmatch _ x).mp hx
    rcases hk.isToken.isBraced.eq_or_not_openBraces_prefix hw hwne v with rfl | hno
    · rw [(hshape x hs).isBraced.eq_of_prefix_append hk.isToken.isBraced hpre] at hs
      exact (hshape _ hs).not_isToken hk.isToken
    · obtain ⟨body', rfl, -⟩ := hshape x hs
      rw [List.append_assoc] at hpre
      exact hno ((List.prefix_append _ _).trans hpre)

/-- The empty shapes of a text are not among its tokens. -/
theorem emptyShapes_replace_token (hk : k.Spelled bare) (hk' : k'.Spelled bare) (u v : Text) :
    emptyShapes (u ++ (k.raw ++ v)) = emptyShapes (u ++ (k'.raw ++ v)) := by
  have hkeyword : ∀ {k : Token}, k.Spelled bare → _ := fun {k} hk =>
    hits_cut_append_token (k := k) (fun _ => IsEmptyKeyword.isKeyless)
      (fun _ _ => emptyKeyword?_eq_some_iff) hk u v
  have hbraces : ∀ {k : Token}, k.Spelled bare → _ := fun {k} hk =>
    hits_cut_append_token (k := k) (fun _ => IsEmptyBraces.isKeyless)
      (fun _ _ => emptyBraces?_eq_some_iff) hk u v
  unfold emptyShapes
  rw [hkeyword hk, hkeyword hk', hbraces hk, hbraces hk']

/-- Pairs of equal braces are counted on either side of what a token has between its braces. -/
theorem count_append_inner {b : CodePoint} (hb : b.isInner = false) {body : Text} (hne : body ≠ [])
    (hbody : ∀ c ∈ body, c.isInner = true) (u v : Text) :
    (u ++ (body ++ v)).count [b, b] = u.count [b, b] + v.count [b, b] := by
  have hanch : Anchored (exactly [b, b]) id := fun t x hx => by
    obtain ⟨rfl, hpre⟩ := exactly_eq_some_iff.mp hx
    exact ⟨by simp, hpre⟩
  have hnotMem : b ∉ body := fun hm => by simp [hbody b hm] at hb
  unfold Text.count
  rw [hits_cut_across hanch, List.length_append]
  · intro w _ hw
    obtain ⟨c, w, rfl⟩ := List.exists_cons_of_ne_nil hw
    obtain ⟨d, body, rfl⟩ := List.exists_cons_of_ne_nil hne
    have hd : b ≠ d := fun he => hnotMem (he ▸ List.mem_cons_self ..)
    cases w with
    | nil => simp [exactly, hd]
    | cons c' w => simp [exactly]
  · intro w hw hwne
    obtain ⟨c, w, rfl⟩ := List.exists_cons_of_ne_nil hwne
    have hc : b ≠ c := fun he => hnotMem (he ▸ hw.mem (List.mem_cons_self ..))
    simp [exactly, hc]

theorem isBalanced_replace_token (hk : k.Spelled bare) (hk' : k'.Spelled bare) (u v : Text) :
    isBalanced (u ++ (k.raw ++ v)) = isBalanced (u ++ (k'.raw ++ v)) := by
  have hcount : ∀ {b : CodePoint}, b.isInner = false → ∀ {k : Token}, k.Spelled bare →
      (u ++ (k.raw ++ v)).count [b, b] =
        (u ++ openBraces).count [b, b] + (closeBraces ++ v).count [b, b] := by
    intro b hb k hk
    obtain ⟨body, hraw, hne, hbody⟩ := hk.isToken.exists_inner
    rw [← count_append_inner hb hne hbody, hraw]
    simp only [List.append_assoc]
  unfold isBalanced
  rw [openBraces, closeBraces, hcount (by decide) hk, hcount (by decide) hk', hcount (by decide) hk,
    hcount (by decide) hk']

/-- **The syntax of a text does not depend on which tokens stand in it.** -/
theorem faults_replace_token (hk : k.Spelled bare) (hk' : k'.Spelled bare) (u v : Text) :
    faults (u ++ (k.raw ++ v)) = faults (u ++ (k'.raw ++ v)) := by
  unfold faults
  rw [emptyShapes_replace_token hk hk', isBalanced_replace_token hk hk']

end Replace

end SyntaxCheck

end PromptTemplate
