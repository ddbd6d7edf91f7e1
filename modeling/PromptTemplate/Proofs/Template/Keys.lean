import PromptTemplate.Proofs.Template.Grammar
import PromptTemplate.Proofs.Template.Occurrences
import PromptTemplate.Proofs.Text.Distinct

/-!
# Whether there are tokens, and which keys they have

Whether a template has tokens is asked at one place after the other, up to the first token. The keys of the tokens
are noted one after the other under their kinds. Both say what the scan for tokens finds (`queries_agree`): the
scan passes over a place where no token begins, and one token more adds its key to one group, unless it is there.
-/

namespace PromptTemplate.Template

open Text

variable {bare : Bool}

/-! ### Whether there are tokens -/

theorem hasTokens_iff_occurrencesAt_ne_nil {t : Text} (n : Nat) :
    hasTokens bare t = true ↔ occurrencesAt bare n t ≠ [] := by
  induction t generalizing n with
  | nil => simp [hasTokens, occurrencesAt_nil]
  | cons c t ih =>
    rw [hasTokens]
    cases h : Token.at? bare (c :: t) with
    | none => rw [occurrencesAt_cons h, ← ih (n + 1), Option.isSome_none, Bool.false_or]
    | some k =>
      obtain ⟨hk, u, hu⟩ := Token.at?_eq_some_iff.mp h
      rw [← hu, occurrencesAt_append hk]
      simp

/-- **A token stands somewhere** just where the scan finds one. -/
theorem hasTokens_iff {t : Text} : hasTokens bare t = true ↔ occurrences bare t ≠ [] := by
  rw [occurrences_eq_occurrencesAt]
  exact hasTokens_iff_occurrencesAt_ne_nil 0

/-! ### The keys of each kind -/

/-- The keys of the tokens of a kind, in the order of the tokens. -/
def keysOf (kind : TokenKind) (toks : List Token) : List Text :=
  (toks.filter fun tok => tok.kind = kind).map Token.key

/-- The keys of the tokens under their kinds, each key once. -/
def keyGroups (toks : List Token) : List (TokenKind × List Text) :=
  TokenKind.all.map fun kind => (kind, (keysOf kind toks).eraseDups)

theorem keysOf_append_singleton (kind : TokenKind) (toks : List Token) (tok : Token) :
    keysOf kind (toks ++ [tok]) = keysOf kind toks ++ if kind = tok.kind then [tok.key] else [] := by
  by_cases h : kind = tok.kind
  · subst h
    simp [keysOf]
  · simp [keysOf, h, Ne.symm h]

/-- **One token more** adds its key to the group of its kind, unless it is there. -/
theorem addKey_keyGroups (toks : List Token) (tok : Token) :
    addKey (keyGroups toks) tok = keyGroups (toks ++ [tok]) := by
  rw [addKey, keyGroups, keyGroups, List.map_map]
  refine List.map_congr_left fun kind _ => ?_
  rw [Function.comp_apply, keysOf_append_singleton]
  by_cases hkind : kind = tok.kind
  · rw [if_pos hkind, eraseDups_append_singleton]
    by_cases hkey : tok.key ∈ keysOf kind toks <;> simp [hkind ▸ hkey, hkind]
  · simp [hkind]

theorem foldl_addKey (toks : List Token) :
    toks.foldl addKey (TokenKind.all.map fun k => (k, [])) = keyGroups toks := by
  induction toks using List.reverseRecOn with
  | nil => rfl
  | append_singleton toks tok ih =>
    rw [List.foldl_append, List.foldl_cons, List.foldl_nil, ih, addKey_keyGroups]

theorem keysByKind_eq (t : Text) :
    keysByKind bare t = keyGroups ((occurrences bare t).map Occurrence.token) :=
  foldl_addKey _

/-- Some group has a key just where there are tokens, since every token has a kind. -/
theorem exists_mem_keyGroups_ne_nil_iff {toks : List Token} :
    (∃ g ∈ keyGroups toks, g.2 ≠ []) ↔ toks ≠ [] := by
  constructor
  · rintro ⟨g, hg, hne⟩ rfl
    obtain ⟨kind, -, rfl⟩ := List.mem_map.mp hg
    exact hne rfl
  · intro hne
    obtain ⟨tok, htok⟩ := List.exists_mem_of_ne_nil toks hne
    have hkind : tok.kind ∈ TokenKind.all := by cases tok.kind <;> decide
    have hkey : tok.key ∈ (keysOf tok.kind toks).eraseDups :=
      List.mem_eraseDups.mpr (List.mem_map_of_mem (List.mem_filter.mpr ⟨htok, by simp⟩))
    exact ⟨_, List.mem_map_of_mem hkind, List.ne_nil_of_mem hkey⟩

/-- **The short queries agree with the scan.** A template has tokens just where the scan finds some, and just where
some kind has a key. Under each kind stand the keys of its tokens, each once and in the order of the first
tokens with them. -/
theorem queries_agree (bare : Bool) (t : Text) :
    (hasTokens bare t = true ↔ occurrences bare t ≠ []) ∧
    (occurrences bare t ≠ [] ↔ ∃ g ∈ keysByKind bare t, g.2 ≠ []) ∧
    (keysByKind bare t).map Prod.fst = TokenKind.all ∧
    ∀ g ∈ keysByKind bare t,
      FirstSeen (((occurrences bare t).filter fun o => o.token.kind = g.1).map fun o => o.token.key) g.2 := by
  rw [keysByKind_eq]
  refine ⟨hasTokens_iff, ?_, by simp [keyGroups, Function.comp_def], fun g hg => ?_⟩
  · rw [exists_mem_keyGroups_ne_nil_iff, ne_eq, ne_eq, List.map_eq_nil_iff]
  · obtain ⟨kind, -, rfl⟩ := List.mem_map.mp hg
    have hkeys : ((occurrences bare t).filter fun o => o.token.kind = kind).map (fun o => o.token.key) =
        keysOf kind ((occurrences bare t).map Occurrence.token) := by
      rw [keysOf, List.filter_map, List.map_map]
      rfl
    rw [hkeys]
    exact firstSeen_eraseDups _

/-- A bare key is a key of a field, and in another case it is another key. -/
example : (keysByKind true "{{a}}{{FIELD:A}}{{field:a}}{{notes:a}}").map Prod.snd =
    [[("a" : Text), "A"], [], ["a"], [], []] := by decide

end PromptTemplate.Template
