import PromptTemplate.Proofs.Template.Insertion

/-!
# Templates line by line

No escape, no mark and no token holds a line feed. So every pass over a template keeps to the lines: what is
protected, found and filled in on one line does not depend on the others (`resolveWithTokens_append_cons`), and
a template is resolved line by line (`resolve_lineFeed`, `resolve_joinWith_lineFeed`). This holds whatever the
lines are, also where they hold marks or parts of marks.
-/

namespace PromptTemplate.Template

open Text Escape

/-- A code point that stands apart from the notation of templates: no token, escape or mark holds it. -/
def IsApart (x : CodePoint) : Prop :=
  x.isInner = false ∧ x ∉ openEscape ++ closeEscape ++ openMark ++ closeMark

instance (x : CodePoint) : Decidable (IsApart x) := inferInstanceAs (Decidable (_ ∧ _))

variable {x : CodePoint} {bare : Bool}

/-! ### The passes over a template -/

namespace IsApart

theorem notMem_raw (hx : IsApart x) {k : Token} (hk : k.Spelled bare) : x ∉ k.raw := by
  obtain ⟨hinner, hmarks⟩ := hx
  refine hk.isToken.notMem hinner ?_ ?_
  · rintro rfl
    exact hmarks (by decide)
  · rintro rfl
    exact hmarks (by decide)

theorem at?_append_cons (hx : IsApart x) (w v : Text) :
    Token.at? bare (w ++ x :: v) = Token.at? bare w :=
  match?_append_cons (fun _ _ => Token.at?_eq_some_iff) (fun _ => hx.notMem_raw) w v

theorem cut_append_cons (hx : IsApart x) (u v : Text) :
    cut bare (u ++ x :: v) = (cut bare u).join x (cut bare v) :=
  Text.cut_append_cons Token.anchored_at? hx.at?_append_cons u v

theorem protect_append_cons (hx : IsApart x) (u v : Text) :
    protect (u ++ x :: v) = protect u ++ x :: protect v := by
  obtain ⟨-, hmarks⟩ := hx
  simp only [List.mem_append, not_or] at hmarks
  obtain ⟨⟨⟨ho, hc⟩, -⟩, -⟩ := hmarks
  unfold protect
  rw [replace_append_cons (by decide) ho, replace_append_cons (by decide) hc]

theorem unescape_append_cons (hx : IsApart x) (u v : Text) :
    unescape (u ++ x :: v) = unescape u ++ x :: unescape v := by
  obtain ⟨-, hmarks⟩ := hx
  simp only [List.mem_append, not_or] at hmarks
  obtain ⟨⟨-, ho⟩, hc⟩ := hmarks
  unfold unescape
  rw [replace_append_cons (by decide) ho, replace_append_cons (by decide) hc]

theorem fill_append_cons (hx : IsApart x) (s : Snapshot) (u v : Text) :
    fill s bare (u ++ x :: v) = fill s bare u ++ x :: fill s bare v := by
  unfold fill
  rw [hx.cut_append_cons, Cut.mapLiteral_join x _ _ hx.unescape_append_cons, Cut.render_join]

end IsApart

/-! ### Resolution -/

theorem resolve_append_cons (hx : IsApart x) (a b : Text) (s : Snapshot) (bare : Bool) :
    resolve (a ++ x :: b) s bare = resolve a s bare ++ x :: resolve b s bare := by
  rw [resolve_eq_fill, hx.protect_append_cons, hx.fill_append_cons]
  rfl

/-- **Texts around a code point apart** are resolved apart, with the tokens of both in order. -/
theorem resolveWithTokens_append_cons (hx : IsApart x) (a b : Text) (s : Snapshot) (bare : Bool) :
    let ra := resolveWithTokens a s bare
    let rb := resolveWithTokens b s bare
    resolveWithTokens (a ++ x :: b) s bare =
      ⟨ra.text ++ x :: rb.text, ra.emptyTokens ++ rb.emptyTokens, ra.missingTokens ++ rb.missingTokens⟩ := by
  have htokens : ∀ p : Token → Bool,
      ((cut bare (protect (a ++ x :: b))).hits.filter p).map Token.raw =
        ((cut bare (protect a)).hits.filter p).map Token.raw ++
          ((cut bare (protect b)).hits.filter p).map Token.raw := by
    intro p
    rw [hx.protect_append_cons, hx.cut_append_cons, Cut.hits_join, List.filter_append, List.map_append]
  simp only [resolveWithTokens_eq, resolve_append_cons hx, htokens]

/-- The line feed. -/
abbrev lineFeed : CodePoint := .char '\n'

theorem isApart_lineFeed : IsApart lineFeed := by decide

/-- **Resolution works line by line.** -/
theorem resolve_lineFeed (a b : Text) (s : Snapshot) (bare : Bool) :
    let whole := resolveWithTokens (a ++ lineFeed :: b) s bare
    let ra := resolveWithTokens a s bare
    let rb := resolveWithTokens b s bare
    resolve (a ++ lineFeed :: b) s bare = resolve a s bare ++ lineFeed :: resolve b s bare ∧
      whole.text = ra.text ++ lineFeed :: rb.text ∧
      whole.emptyTokens = ra.emptyTokens ++ rb.emptyTokens ∧
      whole.missingTokens = ra.missingTokens ++ rb.missingTokens := by
  intro whole ra rb
  have hwhole : whole = ⟨_, _, _⟩ := resolveWithTokens_append_cons isApart_lineFeed a b s bare
  rw [hwhole]
  exact ⟨resolve_append_cons isApart_lineFeed a b s bare, rfl, rfl, rfl⟩

/-- A template of any number of lines. -/
theorem resolve_joinWith_lineFeed (lines : List Text) (s : Snapshot) (bare : Bool) :
    resolve (joinWith [lineFeed] lines) s bare = joinWith [lineFeed] (lines.map (resolve · s bare)) := by
  induction lines with
  | nil => rfl
  | cons l lines ih =>
    cases lines with
    | nil => rfl
    | cons l' lines =>
      have hjoin : joinWith [lineFeed] (l :: l' :: lines) = l ++ lineFeed :: joinWith [lineFeed] (l' :: lines) := by
        rw [joinWith, List.append_assoc]
        rfl
      rw [hjoin, resolve_append_cons isApart_lineFeed, ih]
      simp [joinWith]

-- an escape and a mark that are cut in two by the end of a line stay as they are
example : resolve (openEscape.dropLast ++ lineFeed :: .char '{' :: lineFeed :: openMark.dropLast) {} true =
    openEscape.dropLast ++ lineFeed :: .char '{' :: lineFeed :: openMark.dropLast := by decide

end PromptTemplate.Template
