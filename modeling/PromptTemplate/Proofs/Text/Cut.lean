import PromptTemplate.Text.Cut

/-!
# A cut, one step at a time

`Text.cut` scans with a counter of code points to skip. Here the scan is taken a step at a time: at
the head of a text stands a match or a literal code point (`cut_append_of_some`, `cut_cons_of_none`),
and what holds of the empty text and of both steps holds of every text (`cut_induction`). A match that
no earlier match reaches into cuts the text in two (`cut_splice`). The steps of `Text.replace` are
those of the cut at one fixed text.
-/

namespace PromptTemplate

namespace Cut

variable {α : Type}

/-- A cut, a match and the cut of what follows the match, as one cut. -/
def splice (c : Cut α) (a : α) (d : Cut α) : Cut α := ⟨c.lead, c.rest ++ (a, d.lead) :: d.rest⟩

theorem render_splice (f : α → Text) (c : Cut α) (a : α) (d : Cut α) :
    (c.splice a d).render f = c.render f ++ (f a ++ d.render f) := by
  simp [render, splice]

theorem mapLiteral_splice (g : Text → Text) (c : Cut α) (a : α) (d : Cut α) :
    (c.splice a d).mapLiteral g = (c.mapLiteral g).splice a (d.mapLiteral g) := by
  simp [mapLiteral, splice]

theorem hits_splice (c : Cut α) (a : α) (d : Cut α) :
    (c.splice a d).hits = c.hits ++ a :: d.hits := by
  simp [hits, splice]

/-- The literal texts: the one before the first match, and the one behind each match. -/
def literals (c : Cut α) : List Text := c.lead :: c.rest.map Prod.snd

/-- The cut with a change made to every match. -/
def mapHit (f : α → α) (c : Cut α) : Cut α := ⟨c.lead, c.rest.map fun p => (f p.1, p.2)⟩

@[simp] theorem hits_mapHit (f : α → α) (c : Cut α) : (c.mapHit f).hits = c.hits.map f := by
  simp [hits, mapHit]

@[simp] theorem literals_mapHit (f : α → α) (c : Cut α) : (c.mapHit f).literals = c.literals := by
  simp [literals, mapHit]

@[simp] theorem render_mapHit (f : α → α) (g : α → Text) (c : Cut α) :
    (c.mapHit f).render g = c.render (g ∘ f) := by
  simp [render, mapHit, List.flatMap_map]

theorem mapLiteral_mapHit (f : α → α) (g : Text → Text) (c : Cut α) :
    (c.mapHit f).mapLiteral g = (c.mapLiteral g).mapHit f := by
  simp [mapLiteral, mapHit]

theorem render_cons_rest (f : α → Text) (lead lit : Text) (a : α) (rest : List (α × Text)) :
    render f ⟨lead, (a, lit) :: rest⟩ = lead ++ (f a ++ render f ⟨lit, rest⟩) := by
  simp [render]

/-- The last literal text of a cut, given by its parts, goes on with a code point and another cut. -/
def joinFrom (x : CodePoint) (d : Cut α) (lead : Text) : List (α × Text) → Cut α
  | [] => ⟨lead ++ x :: d.lead, d.rest⟩
  | (a, lit) :: rest => ⟨lead, (a, (joinFrom x d lit rest).lead) :: (joinFrom x d lit rest).rest⟩

/-- Two cuts with a literal code point between them, as one cut. -/
def join (x : CodePoint) (c d : Cut α) : Cut α := joinFrom x d c.lead c.rest

section Join

variable (x : CodePoint) (c d : Cut α)

theorem join_cons (y : CodePoint) : (c.cons y).join x d = (c.join x d).cons y := by
  obtain ⟨lead, rest⟩ := c
  cases rest <;> rfl

theorem join_consHit (a : α) : (c.consHit a).join x d = (c.join x d).consHit a := rfl

@[simp] theorem hits_join : (c.join x d).hits = c.hits ++ d.hits := by
  obtain ⟨lead, rest⟩ := c
  induction rest generalizing lead with
  | nil => rfl
  | cons p rest ih =>
    show p.1 :: (join x ⟨p.2, rest⟩ d).hits = _
    rw [ih]
    rfl

theorem render_join (f : α → Text) : (c.join x d).render f = c.render f ++ x :: d.render f := by
  obtain ⟨lead, rest⟩ := c
  induction rest generalizing lead with
  | nil => simp [join, joinFrom, render]
  | cons p rest ih =>
    show render f ⟨lead, (p.1, (join x ⟨p.2, rest⟩ d).lead) :: (join x ⟨p.2, rest⟩ d).rest⟩ = _
    rw [render_cons_rest, ih, render_cons_rest, List.append_assoc, List.append_assoc]

theorem mapLiteral_join {g : Text → Text} (hg : ∀ u v, g (u ++ x :: v) = g u ++ x :: g v) :
    (c.join x d).mapLiteral g = (c.mapLiteral g).join x (d.mapLiteral g) := by
  obtain ⟨lead, rest⟩ := c
  induction rest generalizing lead with
  | nil => simp [join, joinFrom, mapLiteral, hg]
  | cons p rest ih =>
    have hrest : (joinFrom x d p.2 rest).mapLiteral g = (mapLiteral g ⟨p.2, rest⟩).join x (d.mapLiteral g) :=
      ih p.2
    simp only [join, joinFrom, mapLiteral, List.map_cons] at hrest ⊢
    rw [← hrest]

end Join

end Cut

namespace Text

variable {α : Type} {match? : Text → Option α} {raw : α → Text}

/-- Every match is a non-empty beginning of the text it was found in. -/
def Anchored (match? : Text → Option α) (raw : α → Text) : Prop :=
  ∀ t a, match? t = some a → raw a ≠ [] ∧ raw a <+: t

/-! ### Steps of a cut -/

theorem cut_cons_of_none {c : CodePoint} {t : Text} (h : match? (c :: t) = none) :
    cut match? raw (c :: t) = (cut match? raw t).cons c := by
  simp [cut, cutFrom, h]

theorem cut_append_of_some {a : α} {t : Text} (hne : raw a ≠ [])
    (h : match? (raw a ++ t) = some a) :
    cut match? raw (raw a ++ t) = (cut match? raw t).consHit a := by
  obtain ⟨c, r, hr⟩ := List.exists_cons_of_ne_nil hne
  have hdrop : cutFrom match? raw r.length (r ++ t) = cut match? raw t := by
    rw [cutFrom_eq, List.drop_left]
  rw [hr, List.cons_append] at h ⊢
  simp [cut, cutFrom, h, hr] at hdrop ⊢
  rw [hdrop]

/-- What holds of the empty text, and of every text when it holds behind some beginning of it, holds
of all texts. -/
theorem piece_induction {P : Text → Prop} (nil : P [])
    (step : ∀ t, t ≠ [] → ∃ p u, p ≠ [] ∧ p ++ u = t ∧ (P u → P t)) (t : Text) : P t := by
  generalize hn : t.length = n
  induction n using Nat.strongRecOn generalizing t with
  | _ n ih =>
    by_cases ht : t = []
    · exact ht ▸ nil
    · obtain ⟨p, u, hp, rfl, hstep⟩ := step t ht
      have hpos := List.length_pos_iff.mpr hp
      rw [List.length_append] at hn
      exact hstep (ih u.length (by omega) u rfl)

/-- Induction along the scan: the end, a literal code point, a match. -/
theorem cut_induction (hm : Anchored match? raw) {P : Text → Prop} (nil : P [])
    (literal : ∀ c t, match? (c :: t) = none → P t → P (c :: t))
    (hit : ∀ a t, raw a ≠ [] → match? (raw a ++ t) = some a → P t → P (raw a ++ t)) (t : Text) :
    P t := by
  refine piece_induction nil (fun t ht => ?_) t
  cases ha : match? t with
  | none =>
    obtain ⟨c, u, rfl⟩ := List.exists_cons_of_ne_nil ht
    exact ⟨[c], u, by simp, rfl, literal c u ha⟩
  | some a =>
    obtain ⟨hne, u, rfl⟩ := hm _ _ ha
    exact ⟨raw a, u, hne, rfl, hit a u hne ha⟩

/-- Literal text in front of a cut, when no match can begin with any of its code points. -/
theorem cut_append_of_forall_none {u t : Text} (h : ∀ c ∈ u, ∀ w, match? (c :: w) = none) :
    cut match? raw (u ++ t) = ⟨u ++ (cut match? raw t).lead, (cut match? raw t).rest⟩ := by
  induction u with
  | nil => rfl
  | cons c u ih =>
    have ih := ih fun x hx => h x (List.mem_cons_of_mem _ hx)
    rw [List.cons_append, cut_cons_of_none (h c (List.mem_cons_self ..) _), ih]
    rfl

/-- The literal text before the first match stands at the head of the text. -/
theorem prefix_of_prefix_lead (hm : Anchored match? raw) {y t : Text}
    (h : y <+: (cut match? raw t).lead) : y <+: t :=
  h.trans ⟨_, render_cut match? raw hm t⟩

/-- **A match that nothing before it reaches into** cuts the text in two. -/
theorem cut_splice (hm : Anchored match? raw) {u v : Text} {a : α} (hne : raw a ≠ [])
    (ha : match? (raw a ++ v) = some a)
    (hu : ∀ w, w <:+ u → w ≠ [] → match? (w ++ (raw a ++ v)) = match? w) :
    cut match? raw (u ++ (raw a ++ v)) = (cut match? raw u).splice a (cut match? raw v) := by
  induction u using cut_induction hm with
  | nil => rw [List.nil_append, cut_append_of_some hne ha]; rfl
  | literal c u hc ih =>
    have ih := ih fun w hw => hu w (hw.trans (List.suffix_cons c u))
    have hc' := (hu _ (List.suffix_refl _) (by simp)).trans hc
    rw [List.cons_append] at hc' ⊢
    rw [cut_cons_of_none hc', cut_cons_of_none hc, ih]
    rfl
  | hit b u hb hbu ih =>
    have ih := ih fun w hw => hu w (hw.trans (List.suffix_append _ u))
    have hbu' := (hu _ (List.suffix_refl _) (by simp [hb])).trans hbu
    rw [List.append_assoc] at hbu' ⊢
    rw [cut_append_of_some hb hbu', cut_append_of_some hb hbu, ih]
    rfl

/-- Text in which no match begins, in front of a cut. -/
theorem hits_cut_append_of_none {m v : Text}
    (h : ∀ w, w <:+ m → w ≠ [] → match? (w ++ v) = none) :
    (cut match? raw (m ++ v)).hits = (cut match? raw v).hits := by
  induction m with
  | nil => rfl
  | cons c m ih =>
    have hc : match? (c :: (m ++ v)) = none := h _ (List.suffix_refl _) (by simp)
    rw [List.cons_append, cut_cons_of_none hc, Cut.hits_cons]
    exact ih fun w hw => h w (hw.trans (List.suffix_cons c m))

/-- **A block in which no match begins and into which none reaches** can be left out of the text: the
matches are those before it and those after it. -/
theorem hits_cut_across (hm : Anchored match? raw) {u m v : Text}
    (hu : ∀ w, w <:+ u → w ≠ [] → match? (w ++ (m ++ v)) = match? w)
    (hblock : ∀ w, w <:+ m → w ≠ [] → match? (w ++ v) = none) :
    (cut match? raw (u ++ (m ++ v))).hits = (cut match? raw u).hits ++ (cut match? raw v).hits := by
  induction u using cut_induction hm with
  | nil => rw [List.nil_append, hits_cut_append_of_none hblock]; rfl
  | literal c u hc ih =>
    have ih := ih fun w hw => hu w (hw.trans (List.suffix_cons c u))
    have hc' := (hu _ (List.suffix_refl _) (by simp)).trans hc
    rw [List.cons_append] at hc' ⊢
    rw [cut_cons_of_none hc', cut_cons_of_none hc, Cut.hits_cons, Cut.hits_cons, ih]
  | hit a u ha hau ih =>
    have ih := ih fun w hw => hu w (hw.trans (List.suffix_append _ u))
    have hau' := (hu _ (List.suffix_refl _) (by simp [ha])).trans hau
    rw [List.append_assoc] at hau' ⊢
    rw [cut_append_of_some ha hau', cut_append_of_some ha hau, Cut.hits_consHit, Cut.hits_consHit, ih,
      List.cons_append]

/-- Text that lacks a code point stands at the head of a text only where it ends before that code point. -/
theorem prefix_append_cons_iff {x : CodePoint} {y : Text} (hx : x ∉ y) {u v : Text} :
    y <+: u ++ x :: v ↔ y <+: u := by
  refine ⟨fun h => ?_, fun h => h.trans (List.prefix_append u _)⟩
  rcases List.prefix_or_prefix_of_prefix h (List.prefix_append u _) with h' | ⟨z, rfl⟩
  · exact h'
  -- `z` is what would reach as far as `x`
  cases z with
  | nil => simp
  | cons d z =>
    obtain ⟨rfl, -⟩ := List.cons_prefix_cons.mp ((List.prefix_append_right_inj u).mp h)
    exact absurd (List.mem_append_right u (List.mem_cons_self ..)) hx

/-- A match that lacks a code point stands at the head of a text only where it ends before it. -/
theorem match?_append_cons {Shape : α → Prop} {x : CodePoint}
    (hmatch : ∀ t a, match? t = some a ↔ Shape a ∧ raw a <+: t) (hx : ∀ a, Shape a → x ∉ raw a)
    (w v : Text) : match? (w ++ x :: v) = match? w := by
  apply Option.ext
  intro a
  rw [hmatch, hmatch]
  exact and_congr_right fun hs => prefix_append_cons_iff (hx a hs)

/-- **A block that no match can reach into or begin in**, since matches lack its first code point and begin
with one that it lacks, can be left out of the text. -/
theorem hits_cut_across_barrier {Shape : α → Prop} {x y : CodePoint} {m : Text}
    (hmatch : ∀ t a, match? t = some a ↔ Shape a ∧ raw a <+: t)
    (hhead : ∀ a, Shape a → (raw a).head? = some y) (hx : ∀ a, Shape a → x ∉ raw a) (hy : y ∉ x :: m)
    (u v : Text) :
    (cut match? raw (u ++ (x :: m ++ v))).hits = (cut match? raw u).hits ++ (cut match? raw v).hits := by
  have hanch : Anchored match? raw := fun t a ha => by
    obtain ⟨hs, hpre⟩ := (hmatch t a).mp ha
    exact ⟨List.ne_nil_of_mem (List.mem_of_mem_head? (hhead a hs)), hpre⟩
  apply hits_cut_across hanch
  · intro w _ _
    exact match?_append_cons hmatch hx w (m ++ v)
  · intro w hw hne
    rw [Option.eq_none_iff_forall_ne_some]
    intro a ha
    obtain ⟨hs, hpre⟩ := (hmatch _ a).mp ha
    obtain ⟨q, hq⟩ := List.head?_eq_some_iff.mp (hhead a hs)
    obtain ⟨c, w, rfl⟩ := List.exists_cons_of_ne_nil hne
    rw [hq] at hpre
    obtain ⟨rfl, -⟩ := List.cons_prefix_cons.mp hpre
    exact hy (hw.mem (List.mem_cons_self ..))

/-- **A code point that no match reaches** cuts the text in two, and stays between the literal texts of
both. -/
theorem cut_append_cons (hm : Anchored match? raw) {x : CodePoint}
    (hx : ∀ w v, match? (w ++ x :: v) = match? w) (u v : Text) :
    cut match? raw (u ++ x :: v) = (cut match? raw u).join x (cut match? raw v) := by
  induction u using cut_induction hm with
  | nil =>
    have hnil : match? [] = none := by
      rw [Option.eq_none_iff_forall_ne_some]
      intro a ha
      obtain ⟨hne, hpre⟩ := hm [] a ha
      exact hne (List.prefix_nil.mp hpre)
    exact cut_cons_of_none ((hx [] v).trans hnil)
  | literal c u hc ih =>
    have hc' : match? (c :: (u ++ x :: v)) = none := (hx (c :: u) v).trans hc
    rw [List.cons_append, cut_cons_of_none hc', ih, cut_cons_of_none hc, Cut.join_cons]
  | hit a u hne ha ih =>
    have ha' : match? (raw a ++ (u ++ x :: v)) = some a := by rw [← List.append_assoc, hx, ha]
    rw [List.append_assoc, cut_append_of_some hne ha', ih, cut_append_of_some hne ha, Cut.join_consHit]

/-- Nothing is found in a text without the text that all matches begin with. -/
theorem hits_cut_eq_nil {p t : Text} (hp : ∀ t a, match? t = some a → p <+: t) (h : ¬ p <:+: t) :
    (cut match? raw t).hits = [] := by
  induction t with
  | nil => rfl
  | cons c t ih =>
    rw [List.infix_cons_iff, not_or] at h
    have hc : match? (c :: t) = none :=
      Option.eq_none_iff_forall_ne_some.mpr fun a ha => h.1 (hp _ a ha)
    rw [cut_cons_of_none hc, Cut.hits_cons]
    exact ih h.2

/-- Every match of a cut was found somewhere. -/
theorem exists_of_mem_hits (hm : Anchored match? raw) {t : Text} {a : α} (h : a ∈ (cut match? raw t).hits) :
    ∃ u, match? u = some a := by
  induction t using cut_induction hm with
  | nil => cases h
  | literal c t hc ih =>
    rw [cut_cons_of_none hc] at h
    exact ih h
  | hit b t hne hb ih =>
    rw [cut_append_of_some hne hb] at h
    rcases List.mem_cons.mp h with rfl | h
    · exact ⟨_, hb⟩
    · exact ih h

/-! ### Literal texts -/

/-- A text without a match is all literal. -/
theorem cut_of_hits_eq_nil (hm : Anchored match? raw) {t : Text} (h : (cut match? raw t).hits = []) :
    cut match? raw t = ⟨t, []⟩ := by
  have hrender := render_cut match? raw hm t
  generalize cut match? raw t = c at h hrender ⊢
  obtain ⟨lead, rest⟩ := c
  obtain rfl : rest = [] := List.map_eq_nil_iff.mp h
  obtain rfl : lead = t := by rwa [Cut.render, List.flatMap_nil, List.append_nil] at hrender
  rfl

/-- **In the literal texts of a cut there is no match**, if what a text begins with does not depend on how
it goes on. -/
theorem hits_cut_of_mem_literals (hm : Anchored match? raw)
    (hmono : ∀ w v a, match? w = some a → match? (w ++ v) = some a) {t l : Text}
    (hl : l ∈ (cut match? raw t).literals) : (cut match? raw l).hits = [] := by
  induction t using cut_induction hm generalizing l with
  | nil =>
    obtain rfl := List.mem_singleton.mp hl
    rfl
  | literal c t hc ih =>
    rw [cut_cons_of_none hc] at hl
    rcases List.mem_cons.mp hl with rfl | hl
    · obtain ⟨v, hv⟩ : (cut match? raw t).lead <+: t := ⟨_, render_cut match? raw hm t⟩
      have hnone : match? (c :: (cut match? raw t).lead) = none := by
        refine Option.eq_none_iff_forall_ne_some.mpr fun a ha => ?_
        have := hmono _ v a ha
        rw [List.cons_append, hv, hc] at this
        cases this
      rw [Cut.cons, cut_cons_of_none hnone, Cut.hits_cons]
      exact ih (List.mem_cons_self ..)
    · exact ih (List.mem_cons_of_mem _ hl)
  | hit a t hne ha ih =>
    rw [cut_append_of_some hne ha] at hl
    rcases List.mem_cons.mp hl with rfl | hl
    · rfl
    · exact ih hl

/-! ### Steps of a replacement -/

section Replace

variable {p r : Text}

theorem exactly_eq_some_iff {t a : Text} : exactly p t = some a ↔ p = a ∧ p <+: t := by
  unfold exactly
  split <;> simp_all

theorem exactly_eq_none {t : Text} (h : ¬ p <+: t) : exactly p t = none := by
  simpa [exactly] using h

theorem anchored_exactly (hp : p ≠ []) : Anchored (exactly p) id := fun t a ha => by
  obtain ⟨rfl, hpre⟩ := exactly_eq_some_iff.mp ha
  exact ⟨hp, hpre⟩

@[simp] theorem replace_nil : replace [] p r = [] := rfl

theorem replace_cons_of_not {c : CodePoint} {t : Text} (h : ¬ p <+: c :: t) :
    replace (c :: t) p r = c :: replace t p r := by
  unfold replace
  rw [cut_cons_of_none (exactly_eq_none h), Cut.render_cons]

theorem replace_append_self (hp : p ≠ []) (t : Text) :
    replace (p ++ t) p r = r ++ replace t p r := by
  have h : exactly p (p ++ t) = some p := exactly_eq_some_iff.mpr ⟨rfl, List.prefix_append _ _⟩
  have hcut : cut (exactly p) id (p ++ t) = (cut (exactly p) id t).consHit p :=
    cut_append_of_some hp h
  unfold replace
  rw [hcut, Cut.render_consHit]

/-- Text without the first code point of the pattern stays as it is. -/
theorem replace_append_of_notMem {x : CodePoint} {u : Text} (hp : p.head? = some x) (hx : x ∉ u)
    (t : Text) : replace (u ++ t) p r = u ++ replace t p r := by
  induction u with
  | nil => rfl
  | cons c u ih =>
    obtain ⟨hc, hu⟩ := List.ne_and_not_mem_of_not_mem_cons hx
    have hpre : ¬ p <+: c :: (u ++ t) := by
      obtain ⟨q, rfl⟩ := List.head?_eq_some_iff.mp hp
      exact fun h => hc (List.cons_prefix_cons.mp h).1
    rw [List.cons_append, replace_cons_of_not hpre, ih hu]
    rfl

/-- A code point that the pattern lacks stays where it is, and both sides are replaced apart. -/
theorem replace_append_cons {x : CodePoint} (hp : p ≠ []) (hx : x ∉ p) (u v : Text) :
    replace (u ++ x :: v) p r = replace u p r ++ x :: replace v p r := by
  have hmatch : ∀ w v, exactly p (w ++ x :: v) = exactly p w := by
    intro w v
    simp only [exactly, List.isPrefixOf_iff_prefix, prefix_append_cons_iff hx]
  unfold replace
  rw [cut_append_cons (anchored_exactly hp) hmatch, Cut.render_join]

/-- A beginning of the new text that lacks the first code point of the substitute was there before. -/
theorem prefix_of_prefix_replace {n : CodePoint} {y t : Text} (hp : p ≠ []) (hr : r.head? = some n)
    (hy : n ∉ y) (h : y <+: replace t p r) : y <+: t := by
  obtain ⟨q, rfl⟩ := List.head?_eq_some_iff.mp hr
  induction y generalizing t with
  | nil => exact List.nil_prefix
  | cons d y ih =>
    obtain ⟨hd, hy⟩ := List.ne_and_not_mem_of_not_mem_cons hy
    by_cases hpre : p <+: t
    · obtain ⟨u, rfl⟩ := hpre
      rw [replace_append_self hp] at h
      exact absurd (List.cons_prefix_cons.mp h).1.symm hd
    · cases t with
      | nil => exact h
      | cons c t =>
        rw [replace_cons_of_not hpre] at h
        obtain ⟨hdc, hyt⟩ := List.cons_prefix_cons.mp h
        exact List.cons_prefix_cons.mpr ⟨hdc, ih hy hyt⟩

end Replace

/-! ### Texts in a text -/

theorem has_eq_true_iff {t p : Text} : t.has p = true ↔ p <:+: t := by
  induction t with
  | nil => simp [has]
  | cons c t ih => rw [has, Bool.or_eq_true, List.isPrefixOf_iff_prefix, ih, List.infix_cons_iff]

/-- Text does not begin among code points that lack its first one. -/
theorem infix_append_iff_of_notMem {b : CodePoint} {y u t : Text} (hy : y.head? = some b) (hu : b ∉ u) :
    y <:+: u ++ t ↔ y <:+: t := by
  induction u with
  | nil => rfl
  | cons c u ih =>
    obtain ⟨hc, hu⟩ := List.ne_and_not_mem_of_not_mem_cons hu
    have hpre : ¬ y <+: c :: (u ++ t) := by
      obtain ⟨q, rfl⟩ := List.head?_eq_some_iff.mp hy
      exact fun h => hc (List.cons_prefix_cons.mp h).1
    rw [List.cons_append, List.infix_cons_iff, ih hu]
    exact or_iff_right hpre

/-- Text that lacks a code point stands before it or behind it. -/
theorem infix_append_cons_iff {x : CodePoint} {y : Text} (hx : x ∉ y) {u v : Text} :
    y <:+: u ++ x :: v ↔ y <:+: u ∨ y <:+: v := by
  induction u with
  | nil =>
    rw [List.nil_append, List.infix_cons_iff]
    refine or_congr_left ?_
    rw [← List.nil_append (x :: v), prefix_append_cons_iff hx, List.prefix_nil, List.infix_nil]
  | cons c u ih =>
    rw [List.cons_append, List.infix_cons_iff, List.infix_cons_iff, ih, ← List.cons_append,
      prefix_append_cons_iff hx, or_assoc]

end Text

end PromptTemplate
