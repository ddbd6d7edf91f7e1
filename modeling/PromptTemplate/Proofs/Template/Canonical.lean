import PromptTemplate.Proofs.Template.Insertion
import PromptTemplate.Proofs.Template.Protected
import PromptTemplate.Proofs.Template.Strict

/-!
# Canonical templates

A token has a canonical form, with its keyword in lower case and never bare. The canonical form of a
template has every token in its canonical form (`Template.canonical`); its escapes and its other text stay.
The tokens of the new template are the old ones, each in its canonical form and between the same literal
texts, and it makes no difference whether bare tokens are read (`cut_protect_canonical`): cutting a text
undoes the rendering of tokens between texts without tokens (`cut_render_raw`), and a text stays protected
with other tokens in the places of its own (`isProtected_render_mapHit`). So a template and its canonical
form mean the same (`canonical_keeps_meaning`).
-/

namespace PromptTemplate

open Text Escape

namespace Token

variable {bare : Bool} {k : Token}

/-- The token with its canonical text. -/
def toCanonical (k : Token) : Token := { k with raw := k.canonical }

/-- The canonical text of a token says what the token says, in either mode. -/
theorem Spelled.toCanonical (h : k.Spelled bare) (bare' : Bool) : k.toCanonical.Spelled bare' := by
  obtain ⟨kind, key, raw⟩ := k
  cases h with
  | prefixed h => exact Template.spelled_token bare' h.1 h.2.1
  | whole _ h hkey =>
    obtain ⟨w, -, hkind⟩ := h
    obtain rfl : key = kind.name := hkey
    exact Template.spelled_wholeToken bare' (hkind.imp And.left And.left) _
  | bare _ _ _ h hkind =>
    obtain rfl : kind = .field := hkind
    exact Template.spelled_token bare' (by simp) h.1

theorem at?_append_of_eq_some {w : Text} (h : at? bare w = some k) (v : Text) :
    at? bare (w ++ v) = some k := by
  rw [at?_eq_some_iff] at h ⊢
  exact ⟨h.1, h.2.trans (List.prefix_append w v)⟩

end Token

namespace Template

variable {bare : Bool} {c : Cut Token}

/-! ### Tokens between literal texts -/

theorem spelled_of_mem_hits {k : Token} {u : Text} (h : k ∈ (cut bare u).hits) : k.Spelled bare := by
  obtain ⟨_, hu⟩ := exists_of_mem_hits Token.anchored_at? h
  exact (Token.at?_eq_some_iff.mp hu).1

theorem hits_cut_false_of_nil {u : Text} (h : (cut true u).hits = []) (bare : Bool) :
    (cut bare u).hits = [] := by
  cases bare with
  | true => exact h
  | false =>
    rw [← map_token_occurrences, List.map_eq_nil_iff] at h ⊢
    rw [occurrences_false_eq_filter, h, List.filter_nil]

/-- **Cutting undoes rendering** where the matches are tokens and the literal texts hold none. -/
theorem cut_render_raw (hhits : ∀ k ∈ c.hits, k.Spelled bare)
    (hliterals : ∀ l ∈ c.literals, (cut bare l).hits = []) : cut bare (c.render Token.raw) = c := by
  obtain ⟨lead, rest⟩ := c
  induction rest generalizing lead with
  | nil =>
    rw [Cut.render, List.flatMap_nil, List.append_nil]
    exact cut_of_hits_eq_nil Token.anchored_at? (hliterals lead (List.mem_cons_self ..))
  | cons p rest ih =>
    obtain ⟨k, lit⟩ := p
    obtain ⟨hk, hrest⟩ := List.forall_mem_cons.mp hhits
    obtain ⟨hlead, hlits⟩ := List.forall_mem_cons.mp hliterals
    have hcut : cut bare lead = ⟨lead, []⟩ := cut_of_hits_eq_nil Token.anchored_at? hlead
    rw [Cut.render_cons_rest, cut_append_token hk, hcut, ih lit hrest hlits]
    rfl

/-- Other tokens in the places of the tokens make no escape and undo none. -/
theorem isProtected_render_mapHit {f : Token → Token} (hhits : ∀ k ∈ c.hits, k.Spelled bare)
    (hf : ∀ k ∈ c.hits, (f k).Spelled bare) (h : IsProtected (c.render Token.raw)) :
    IsProtected ((c.mapHit f).render Token.raw) := by
  obtain ⟨lead, rest⟩ := c
  induction rest generalizing lead with
  | nil => exact h
  | cons p rest ih =>
    obtain ⟨k, lit⟩ := p
    obtain ⟨hk, hhits⟩ := List.forall_mem_cons.mp hhits
    obtain ⟨hfk, hf⟩ := List.forall_mem_cons.mp hf
    rw [Cut.render_cons_rest, isProtected_append_token_iff hk] at h
    have hrest : IsProtected (Cut.render Token.raw (Cut.mapHit f ⟨lit, rest⟩)) := ih lit hhits hf h.2
    change IsProtected (Cut.render Token.raw ⟨lead, (f k, lit) :: (Cut.mapHit f ⟨lit, rest⟩).rest⟩)
    rw [Cut.render_cons_rest, isProtected_append_token_iff hfk]
    exact ⟨h.1, hrest⟩

/-! ### The canonical form of a template -/

/-- The template with every token in its canonical form. -/
def canonical (t : Text) : Text := restore ((cut true (protect t)).render Token.canonical)

theorem protect_canonical (t : Text) :
    protect (canonical t) = ((cut true (protect t)).mapHit Token.toCanonical).render Token.raw := by
  have hhits : ∀ k ∈ (cut true (protect t)).hits, k.Spelled true := fun _ => spelled_of_mem_hits
  have hraw : (cut true (protect t)).render Token.raw = protect t :=
    render_cut _ _ Token.anchored_at? _
  have hrender : (cut true (protect t)).render Token.canonical =
      ((cut true (protect t)).mapHit Token.toCanonical).render Token.raw := by
    rw [Cut.render_mapHit]
    rfl
  rw [canonical, hrender]
  refine protect_restore (isProtected_render_mapHit hhits (fun k hk => (hhits k hk).toCanonical true) ?_)
  rw [hraw]
  exact isProtected_protect t

/-- **The tokens of the canonical form** are those of the template in their canonical form, in either
mode, and the literal texts between them are the same. -/
theorem cut_protect_canonical (bare : Bool) (t : Text) :
    cut bare (protect (canonical t)) = (cut true (protect t)).mapHit Token.toCanonical := by
  rw [protect_canonical]
  refine cut_render_raw (fun k hk => ?_) fun l hl => ?_
  · rw [Cut.hits_mapHit] at hk
    obtain ⟨k₀, hk₀, rfl⟩ := List.mem_map.mp hk
    exact (spelled_of_mem_hits hk₀).toCanonical bare
  · rw [Cut.literals_mapHit] at hl
    exact hits_cut_false_of_nil (hits_cut_of_mem_literals Token.anchored_at?
      (fun _ v _ h => Token.at?_append_of_eq_some h v) hl) bare

theorem map_kind_key_occurrences (bare : Bool) (u : Text) :
    (occurrences bare u).map (fun o => (o.token.kind, o.token.key)) =
      (cut bare u).hits.map fun k => (k.kind, k.key) := by
  rw [← map_token_occurrences, List.map_map]
  rfl

/-- **A template means what its canonical form means**, and that form can be read strictly: it resolves to
the same text in either mode, its tokens ask for the same in the same order, and it is its own canonical
form. -/
theorem canonical_keeps_meaning (t : Text) :
    (∀ s bare, resolve (canonical t) s bare = resolve t s true) ∧
    (∀ bare, (occurrences bare (protect (canonical t))).map (fun o => (o.token.kind, o.token.key)) =
      (occurrences true (protect t)).map fun o => (o.token.kind, o.token.key)) ∧
    canonical (canonical t) = canonical t := by
  refine ⟨fun s bare => ?_, fun bare => ?_, ?_⟩
  · rw [resolve, cut_protect_canonical, Cut.mapLiteral_mapHit, Cut.render_mapHit]
    rfl
  · rw [map_kind_key_occurrences, map_kind_key_occurrences, cut_protect_canonical, Cut.hits_mapHit,
      List.map_map]
    rfl
  · conv_lhs => rw [canonical, cut_protect_canonical, Cut.render_mapHit]
    rfl

/-- A bare token behind an escape, one in capitals in a third brace, and one before an escape. -/
example :
    canonical (openEscape ++ "{{a}}{{{NOTES_JSON}}}{{Section:B}}" ++ closeEscape) =
      openEscape ++ "{{field:a}}{{{notes_json}}}{{section:B}}" ++ closeEscape := by decide

end Template

end PromptTemplate
