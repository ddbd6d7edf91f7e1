import PromptTemplate.Text.Basic

/-!
# Cutting a text at the matches of a pattern

A pattern says what stands at the head of a text, if anything. `Text.cut` scans from the left and
takes every match that does not begin inside the match before it: a `Cut` is the literal text
before the first match, then each match with the literal text that follows it. Rendering a cut with
the matched texts themselves gives back the text (`render_cut`).
-/

namespace PromptTemplate

/-- A text cut at matches: literal text, then each match with the literal text after it. -/
structure Cut (α : Type) where
  lead : Text
  rest : List (α × Text)

namespace Cut

variable {α : Type}

/-- The matches in order. -/
def hits (c : Cut α) : List α := c.rest.map Prod.fst

/-- The text with every match replaced. -/
def render (f : α → Text) (c : Cut α) : Text := c.lead ++ c.rest.flatMap fun p => f p.1 ++ p.2

/-- The cut with a change made to every literal part. -/
def mapLiteral (f : Text → Text) (c : Cut α) : Cut α :=
  ⟨f c.lead, c.rest.map fun p => (p.1, f p.2)⟩

/-- Put a literal code point in front. -/
def cons (x : CodePoint) (c : Cut α) : Cut α := ⟨x :: c.lead, c.rest⟩

/-- Put a match in front. -/
def consHit (a : α) (c : Cut α) : Cut α := ⟨[], (a, c.lead) :: c.rest⟩

@[simp] theorem render_cons (f : α → Text) (x : CodePoint) (c : Cut α) :
    (c.cons x).render f = x :: c.render f := rfl

@[simp] theorem render_consHit (f : α → Text) (a : α) (c : Cut α) :
    (c.consHit a).render f = f a ++ c.render f := by
  simp [render, consHit]

@[simp] theorem hits_cons (x : CodePoint) (c : Cut α) : (c.cons x).hits = c.hits := rfl

@[simp] theorem hits_consHit (a : α) (c : Cut α) : (c.consHit a).hits = a :: c.hits := rfl

end Cut

namespace Text

variable {α : Type}

/-- The cut of the text after the first `skip` code points; `raw` is the text of a match. -/
def cutFrom (match? : Text → Option α) (raw : α → Text) : Nat → Text → Cut α
  | _, [] => ⟨[], []⟩
  | skip + 1, _ :: t => cutFrom match? raw skip t
  | 0, c :: t =>
    match match? (c :: t) with
    | none => (cutFrom match? raw 0 t).cons c
    | some a => (cutFrom match? raw ((raw a).length - 1) t).consHit a

/-- Cut a text at the leftmost matches that do not overlap. -/
def cut (match? : Text → Option α) (raw : α → Text) (t : Text) : Cut α := cutFrom match? raw 0 t

/-- The pattern of one fixed text. -/
def exactly (p : Text) (t : Text) : Option Text := if p.isPrefixOf t then some p else none

/-- Replace the leftmost occurrences of `p` that do not overlap. -/
def replace (t p sub : Text) : Text := (cut (exactly p) id t).render fun _ => sub

/-- The number of occurrences of `p` that do not overlap, counted from the left. -/
def count (t p : Text) : Nat := (cut (exactly p) id t).hits.length

theorem cutFrom_eq (match? : Text → Option α) (raw : α → Text) (skip : Nat) (t : Text) :
    cutFrom match? raw skip t = cut match? raw (t.drop skip) := by
  induction skip generalizing t with
  | zero => rfl
  | succ n ih => cases t with
    | nil => simp [cut, cutFrom]
    | cons c t => simp [cutFrom, ih]

/-- A cut loses nothing when every match is a non-empty beginning of the text it was found in. -/
theorem render_cut (match? : Text → Option α) (raw : α → Text)
    (h : ∀ t a, match? t = some a → raw a ≠ [] ∧ raw a <+: t) (t : Text) :
    (cut match? raw t).render raw = t := by
  suffices ∀ skip t, (cutFrom match? raw skip t).render raw = t.drop skip from this 0 t
  intro skip t
  induction t generalizing skip with
  | nil => cases skip <;> simp [cutFrom, Cut.render]
  | cons c t ih =>
    cases skip with
    | succ n => simp [cutFrom, ih]
    | zero =>
      unfold cutFrom
      split
      · simp [ih]
      · rename_i a ha
        obtain ⟨hne, u, hu⟩ := h _ _ ha
        rw [Cut.render_consHit, ih, List.drop_zero]
        cases hr : raw a with
        | nil => exact absurd hr hne
        | cons x xs =>
          rw [hr] at hu
          obtain ⟨rfl, rfl⟩ : x = c ∧ xs ++ u = t := by simpa using hu
          simp

end Text

end PromptTemplate
