import PromptTemplate.Proofs.Template.Filling
import PromptTemplate.Proofs.Template.Occurrences

/-!
# A token in the middle of a template

A token set between two texts is found there whatever the texts hold, and the tokens of both texts are
those they have alone (`cut_append_token`). Escapes are another matter: a backslash before the token, or
a backslash and a brace, would make an escape with the first braces of the token. Where the text before
the token ends in neither, the template resolves to both texts resolved apart with the value of the token
between them, and the same holds of the tokens that gave nothing (`resolveWithTokens_insert`).
-/

namespace PromptTemplate

open Text Escape

namespace Resolution

/-- The value reads as a message that something is missing. -/
def readsMissing (r : Resolution) : Bool := isBracketed r.value

/-- The value reads as nothing at all. -/
def readsEmpty (r : Resolution) : Bool := !isBracketed r.value && (r.value.isEmpty || r.value = noNotes)

end Resolution

namespace Template

variable {bare : Bool}

/-! ### The tokens of a resolved template -/

theorem map_token_occurrencesFrom (n : Nat) (rest : List (Token × Text)) :
    (occurrencesFrom n rest).map Occurrence.token = rest.map Prod.fst := by
  induction rest generalizing n with
  | nil => rfl
  | cons p rest ih =>
    obtain ⟨k, lit⟩ := p
    rw [occurrencesFrom, List.map_cons, ih, List.map_cons]

theorem map_token_occurrences (u : Text) : (occurrences bare u).map Occurrence.token = (cut bare u).hits :=
  map_token_occurrencesFrom _ _

theorem map_raw_filter_resolutions (t : Text) (s : Snapshot) (p : Resolution → Bool) :
    ((resolutions t s bare).filter fun q => p q.2).map (·.1.token.raw) =
      ((cut bare (protect t)).hits.filter fun k => p (Resolution.ofToken s k)).map Token.raw := by
  rw [← map_token_occurrences, resolutions, List.filter_map, List.filter_map, List.map_map, List.map_map]
  rfl

theorem resolveWithTokens_eq (t : Text) (s : Snapshot) (bare : Bool) :
    resolveWithTokens t s bare =
      ⟨resolve t s bare,
        ((cut bare (protect t)).hits.filter fun k => (Resolution.ofToken s k).readsEmpty).map
          Token.raw,
        ((cut bare (protect t)).hits.filter fun k => (Resolution.ofToken s k).readsMissing).map
          Token.raw⟩ := by
  rw [← map_raw_filter_resolutions t s Resolution.readsEmpty,
    ← map_raw_filter_resolutions t s Resolution.readsMissing]
  rfl

/-! ### Cutting around a token -/

theorem at?_append_token {k : Token} (hk : k.Spelled bare) {w : Text} (hw : w ≠ []) (v : Text) :
    Token.at? bare (w ++ (k.raw ++ v)) = Token.at? bare w := by
  refine Option.ext fun k' => ?_
  rw [Token.at?_eq_some_iff, Token.at?_eq_some_iff]
  refine and_congr_right fun hk' => ⟨fun h => ?_, fun h => h.trans (List.prefix_append w _)⟩
  obtain ⟨body, hraw, -⟩ := hk.isToken.exists_inner
  rw [hraw, List.append_assoc, List.append_assoc] at h
  exact hk'.isToken.prefix_of_prefix_append hw h

/-- **A token is found between any two texts**, and it takes no token from them. -/
theorem cut_append_token {k : Token} (hk : k.Spelled bare) (u v : Text) :
    cut bare (u ++ (k.raw ++ v)) = (cut bare u).splice k (cut bare v) :=
  cut_splice Token.anchored_at? hk.isToken.ne_nil (Token.at?_eq_some_of_spelled hk v)
    fun _ _ hw => at?_append_token hk hw v

/-- Its place is behind the first text, and the tokens of the second text stand as far behind it as they
stand in that text. -/
theorem occurrencesAt_append_token {k : Token} (hk : k.Spelled bare) (u v : Text) (n : Nat) :
    occurrencesAt bare n (u ++ (k.raw ++ v)) =
      occurrencesAt bare n u ++ ⟨k, n + u.length, n + u.length + k.raw.length⟩ ::
        occurrencesAt bare (n + u.length + k.raw.length) v := by
  induction u using cut_induction (@Token.anchored_at? bare) generalizing n with
  | nil => exact occurrencesAt_append hk v n
  | literal c u hc ih =>
    have hc' : Token.at? bare (c :: (u ++ (k.raw ++ v))) = none :=
      (at?_append_token hk (by simp) v).trans hc
    rw [List.cons_append, occurrencesAt_cons hc', occurrencesAt_cons hc, ih, List.length_cons,
      Nat.add_assoc n 1, Nat.add_comm 1]
  | hit k' u _ hk' ih =>
    have hk' := (Token.at?_eq_some_iff.mp hk').1
    rw [List.append_assoc, occurrencesAt_append hk', occurrencesAt_append hk', ih, List.length_append,
      Nat.add_assoc n]
    rfl

theorem fill_insert {k : Token} (hk : k.Spelled bare) (s : Snapshot) (u v : Text) :
    fill s bare (u ++ (k.raw ++ v)) =
      fill s bare u ++ ((Resolution.ofToken s k).value ++ fill s bare v) := by
  unfold fill
  rw [cut_append_token hk, Cut.mapLiteral_splice, Cut.render_splice]

/-! ### The seam before a token -/

theorem seam_openBraces {u : Text} (hslash : ¬ [backslash] <:+ u) (hbrace : ¬ [backslash, .char '{'] <:+ u)
    (v : Text) : Seam u (openBraces ++ v) := by
  intro w hw hne e he hp
  replace he := List.mem_pair.mp he
  match w, hne with
  | [c], _ =>
    obtain rfl : c = backslash := by
      rcases he with rfl | rfl <;> exact (List.cons_prefix_cons.mp hp).1.symm
    exact absurd hw hslash
  | [c, d], _ =>
    rcases he with rfl | rfl
    · obtain ⟨rfl, rfl, -⟩ : backslash = c ∧ CodePoint.char '{' = d ∧ True := by
        simpa [openEscape, openBraces] using hp
      exact absurd hw hbrace
    · simp [closeEscape, openBraces] at hp
  | c :: d :: x :: w, _ =>
    rcases he with rfl | rfl <;> simpa [openEscape, closeEscape] using hp

theorem protect_insert {k : Token} (hk : k.Spelled bare) {u : Text} (hslash : ¬ [backslash] <:+ u)
    (hbrace : ¬ [backslash, .char '{'] <:+ u) (v : Text) :
    protect (u ++ (k.raw ++ v)) = protect u ++ (k.raw ++ protect v) := by
  have hseam : Seam u (k.raw ++ v) := by
    obtain ⟨body, hraw, -⟩ := hk.isToken.exists_inner
    rw [hraw, List.append_assoc, List.append_assoc]
    exact seam_openBraces hslash hbrace _
  rw [protect_append hseam, protect_append_of_notMem hk.backslash_notMem]

/-! ### Canonical tokens -/

theorem toLowerAscii_name (kind : TokenKind) : kind.name.toLowerAscii = kind.name := by
  cases kind <;> decide

/-- The canonical token of a prefixed kind says what its kind and key say, in either mode. -/
theorem spelled_token (bare : Bool) {kind : TokenKind} {key : Text}
    (hkind : kind ∈ [.field, .sectionFields, .sectionNotes]) (hkey : IsKey key) :
    (⟨kind, key, kind.token key⟩ : Token).Spelled bare := by
  refine .prefixed ⟨hkind, hkey, kind.name, toLowerAscii_name kind, ?_⟩
  simp only [List.mem_cons, List.not_mem_nil, or_false] at hkind
  rcases hkind with rfl | rfl | rfl <;> rfl

/-- A template that is one canonical token of a kind with a key holds this token and no other. -/
theorem occurrences_token {kind : TokenKind} (hkind : kind ∈ [.field, .sectionFields, .sectionNotes]) {key : Text}
    (hkey : IsKey key) (bare : Bool) :
    occurrences bare (kind.token key) = [⟨⟨kind, key, kind.token key⟩, 0, (kind.token key).length⟩] := by
  have h := occurrencesAt_append (spelled_token bare hkind hkey) [] 0
  rw [List.append_nil] at h
  rw [occurrences_eq_occurrencesAt, h, occurrencesAt_nil, Nat.zero_add]

/-- The canonical token of a whole-snapshot kind has the name of the kind as its key, in either mode. -/
theorem spelled_wholeToken (bare : Bool) {kind : TokenKind} (hkind : kind = .allFields ∨ kind = .allNotes)
    (key : Text) : (⟨kind, kind.name, kind.token key⟩ : Token).Spelled bare := by
  rcases hkind with rfl | rfl
  · exact .whole (fun _ _ => Token.not_isPrefixed_word (by decide)) ⟨_, rfl, .inl ⟨rfl, by decide⟩⟩ rfl
  · exact .whole (fun _ _ => Token.not_isPrefixed_word (by decide)) ⟨_, rfl, .inr ⟨rfl, by decide⟩⟩ rfl

/-- The canonical token of a kind is a token in either mode, and what it resolves to depends on the kind
and the key alone. -/
theorem exists_spelled_token (bare : Bool) {kind : TokenKind} {key : Text}
    (hkey : kind = .allFields ∨ kind = .allNotes ∨ IsKey key) :
    ∃ k : Token, k.Spelled bare ∧ k.raw = kind.token key ∧
      ∀ s, Resolution.ofToken s k = Resolution.ofToken s ⟨kind, key, kind.token key⟩ := by
  cases kind with
  | allFields => exact ⟨_, spelled_wholeToken bare (.inl rfl) key, rfl, fun _ => rfl⟩
  | allNotes => exact ⟨_, spelled_wholeToken bare (.inr rfl) key, rfl, fun _ => rfl⟩
  | field | sectionFields | sectionNotes =>
    have hkey : IsKey key := by simpa using hkey
    exact ⟨_, spelled_token bare (by simp) hkey, rfl, fun _ => rfl⟩

/-! ### Insertion -/

/-- **A canonical token between two texts.** -/
theorem resolveWithTokens_insert (pre post key : Text) (kind : TokenKind) (s : Snapshot) (bare : Bool)
    (hslash : ¬ [backslash] <:+ pre) (hbrace : ¬ [backslash, .char '{'] <:+ pre)
    (hkey : kind = .allFields ∨ kind = .allNotes ∨ IsKey key) :
    let tok := kind.token key
    let r := Resolution.ofToken s ⟨kind, key, tok⟩
    let a := resolveWithTokens pre s bare
    let b := resolveWithTokens post s bare
    resolve (pre ++ tok ++ post) s bare = resolve pre s bare ++ r.value ++ resolve post s bare ∧
    resolveWithTokens (pre ++ tok ++ post) s bare =
      ⟨a.text ++ r.value ++ b.text,
        a.emptyTokens ++ (if r.readsEmpty then [tok] else []) ++ b.emptyTokens,
        a.missingTokens ++ (if r.readsMissing then [tok] else []) ++ b.missingTokens⟩ := by
  obtain ⟨k, hk, hraw, hres⟩ := exists_spelled_token bare hkey
  have hprotect := protect_insert hk hslash hbrace post
  have htext : resolve (pre ++ k.raw ++ post) s bare =
      resolve pre s bare ++ (Resolution.ofToken s k).value ++ resolve post s bare := by
    rw [resolve_eq_fill, List.append_assoc, hprotect, fill_insert hk, ← List.append_assoc]
    rfl
  have htokens : ∀ p : Token → Bool,
      ((cut bare (protect (pre ++ k.raw ++ post))).hits.filter p).map Token.raw =
        ((cut bare (protect pre)).hits.filter p).map Token.raw ++ (if p k then [k.raw] else []) ++
          ((cut bare (protect post)).hits.filter p).map Token.raw := by
    intro p
    rw [List.append_assoc pre, hprotect, cut_append_token hk, Cut.hits_splice, List.filter_append,
      List.map_append, List.filter_cons, List.append_assoc]
    split <;> rfl
  intro tok r a b
  have hr : r = Resolution.ofToken s k := (hres s).symm
  have htok : tok = k.raw := hraw.symm
  rw [hr, htok]
  refine ⟨htext, ?_⟩
  simp only [a, b, resolveWithTokens_eq, htext, htokens]

/-- An empty token and a lone brace before, an escape and a missing token behind. -/
theorem resolveWithTokens_insert_section :
    let pre : Text := openEscape ++ TokenKind.field.token "e" ++ [.char '{']
    let post : Text := closeEscape ++ TokenKind.sectionNotes.token "zz"
    let s : Snapshot := { fields := [{ key := "e", label := "E", sectionId := "x" }] }
    ¬ [backslash] <:+ pre ∧ ¬ [backslash, .char '{'] <:+ pre ∧ IsKey "nope" ∧
      resolveWithTokens (pre ++ TokenKind.sectionFields.token "nope" ++ post) s true =
        ⟨openBraces ++ [.char '{'] ++ Resolution.placeholder "Section not found" "nope" ++
            closeBraces ++ Resolution.placeholder "Section not found" "zz",
          [TokenKind.field.token "e"],
          [TokenKind.sectionFields.token "nope", TokenKind.sectionNotes.token "zz"]⟩ := by
  intro pre post s
  have h := resolveWithTokens_insert pre post "nope" .sectionFields s true (by decide) (by decide)
    (.inr (.inr (by decide)))
  exact ⟨by decide, by decide, by decide, h.2.trans (by decide)⟩

end Template

end PromptTemplate
