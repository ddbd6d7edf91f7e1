import PromptTemplate.Proofs.Template.Occurrences
import PromptTemplate.Proofs.Template.Shapes
import PromptTemplate.Proofs.Text.Distinct
import PromptTemplate.Proofs.Text.Pairs

/-!
# What the syntax check reports

Two empty shapes never overlap, so each scan finds all shapes of its kind; no text is of both kinds, so
leaving out repetitions concerns each scan by itself. The report is the fault of the balance, which compares
the pairs of braces run by run, and then each shape that stands anywhere in the text, once, in the order of
the first places, those with a keyword first. A shape and a token have no place in common
(`messages_exact`).
-/

namespace PromptTemplate

open Text

namespace SyntaxCheck

/-! ### Both scans find all shapes -/

theorem isolated_of_isKeyless {match? : Text → Option Text} {Shape : Text → Prop}
    (hshape : ∀ x, Shape x → IsKeyless x) (hmatch : ∀ t x, match? t = some x ↔ Shape x ∧ x <+: t) :
    Isolated match? id := by
  intro x v hx w hw hne hwx
  obtain ⟨hs, -⟩ := (hmatch _ x).mp hx
  refine Option.eq_none_iff_forall_ne_some.mpr fun y hy => ?_
  obtain ⟨hsy, hpre⟩ := (hmatch _ y).mp hy
  obtain ⟨body, rfl, -⟩ := hshape y hsy
  rw [List.append_assoc] at hpre
  rcases (hshape x hs).isBraced.eq_or_not_openBraces_prefix hw hne v with h | h
  · exact hwx h
  · exact h ((List.prefix_append _ _).trans hpre)

theorem listed_of_isKeyless {match? : Text → Option Text} {Shape : Text → Prop}
    (hshape : ∀ x, Shape x → IsKeyless x) (hmatch : ∀ t x, match? t = some x ↔ Shape x ∧ x <+: t) (t : Text) :
    Listed Shape t (cut match? id t).hits.eraseDups :=
  listed_eraseDups_hits (anchored_of_isKeyless hshape hmatch) (isolated_of_isKeyless hshape hmatch) hmatch t

/-- A keyword tells the two kinds of shapes apart. -/
theorem IsEmptyKeyword.not_isEmptyBraces {x : Text} (h : IsEmptyKeyword x) : ¬ IsEmptyBraces x := by
  rintro ⟨blanks', hall, hx⟩
  obtain ⟨w, blanks, -, -, rfl⟩ := h
  have hcolon : CodePoint.char ':' ∈ openBraces ++ blanks' ++ closeBraces := by simp [← hx]
  replace hcolon : CodePoint.char ':' ∈ blanks' := by simpa [openBraces, closeBraces] using hcolon
  exact absurd (hall _ hcolon) (by decide)

theorem mem_hits_of_listed {match? : Text → Option Text} {Shape : Text → Prop} {t : Text}
    (h : Listed Shape t (cut match? id t).hits.eraseDups) {x : Text} (hx : x ∈ (cut match? id t).hits) :
    Shape x :=
  ((h.mem_iff x).mp (List.mem_eraseDups.mpr hx)).1

/-- **The shapes of a text** are all shapes with a keyword, each once, and then all others. -/
theorem exists_listed_emptyShapes (t : Text) :
    ∃ keywords blanks, emptyShapes t = keywords ++ blanks ∧ Listed IsEmptyKeyword t keywords ∧
      Listed IsEmptyBraces t blanks := by
  have hkeywords := listed_of_isKeyless (fun _ => IsEmptyKeyword.isKeyless)
    (fun _ _ => emptyKeyword?_eq_some_iff) t
  have hblanks := listed_of_isKeyless (fun _ => IsEmptyBraces.isKeyless)
    (fun _ _ => emptyBraces?_eq_some_iff) t
  refine ⟨_, _, eraseDups_append_of_disjoint fun x hx hx' => ?_, hkeywords, hblanks⟩
  exact (mem_hits_of_listed hkeywords hx').not_isEmptyBraces (mem_hits_of_listed hblanks hx)

/-! ### The report -/

theorem isBalanced_iff (t : Text) :
    isBalanced t = true ↔
      ((runs (.char '{') t).map (· / 2)).sum = ((runs (.char '}') t).map (· / 2)).sum := by
  rw [isBalanced, beq_iff_eq, openBraces, closeBraces, count_pair_eq_sum_runs, count_pair_eq_sum_runs]

theorem message_injective : Function.Injective SyntaxFault.message := by
  intro f g h
  cases f with
  | mismatched =>
    cases g with
    | mismatched => rfl
    | malformed y => simp [SyntaxFault.message, Text.ofString] at h
  | malformed x =>
    cases g with
    | mismatched => simp [SyntaxFault.message, Text.ofString] at h
    | malformed y => rw [List.append_cancel_left (show Text.ofString _ ++ x = Text.ofString _ ++ y from h)]

theorem nodup_faults (t : Text) : (faults t).Nodup := by
  have hshapes : ((emptyShapes t).map SyntaxFault.malformed).Nodup :=
    (nodup_eraseDups _).map fun _ _ h => SyntaxFault.malformed.inj h
  unfold faults
  split
  · exact hshapes
  · refine List.nodup_cons.mpr ⟨fun h => ?_, hshapes⟩
    obtain ⟨x, -, hx⟩ := List.mem_map.mp h
    cases hx

/-- A shape and a token have no place in common. -/
theorem apart_of_mem_occurrences {x a b t : Text} (hx : IsKeyless x) (ht : t = a ++ (x ++ b)) {bare : Bool}
    {o : Occurrence} (ho : o ∈ Template.occurrences bare t) :
    a.length + x.length ≤ o.start ∨ o.stop ≤ a.length := by
  rw [Template.occurrences_eq_occurrencesAt] at ho
  obtain ⟨hk, a', b', ht', hstart, hstop⟩ := Template.mem_occurrencesAt_iff.mp ho
  rw [hstart, hstop, Nat.zero_add]
  rcases hx.isBraced.apart hk.isToken.isBraced (ht.symm.trans ht') with ⟨-, hxk⟩ | h
  · exact absurd (hxk ▸ hk.isToken) hx.not_isToken
  · exact h

/-- **The syntax check reports what is wrong, and nothing twice**: whether the pairs of braces balance, then
every empty shape that stands anywhere in the text, in order. -/
theorem messages_exact (t : Text) :
    let pairs (b : Char) := ((runs (.char b) t).map (· / 2)).sum
    ((faults t).map SyntaxFault.message).Nodup ∧
    (∃ keywords blanks, Listed IsEmptyKeyword t keywords ∧ Listed IsEmptyBraces t blanks ∧
      (faults t).map SyntaxFault.message =
        (if pairs '{' ≠ pairs '}' then [SyntaxFault.mismatched.message] else []) ++
          (keywords.map fun x => (SyntaxFault.malformed x).message) ++
          blanks.map fun x => (SyntaxFault.malformed x).message) ∧
    ∀ x a b, IsEmptyKeyword x ∨ IsEmptyBraces x → t = a ++ (x ++ b) → ∀ bare, ∀ o ∈ Template.occurrences bare t,
      a.length + x.length ≤ o.start ∨ o.stop ≤ a.length := by
  intro pairs
  refine ⟨(nodup_faults t).map message_injective, ?_, fun x a b hx ht bare o ho => ?_⟩
  · obtain ⟨keywords, blanks, hshapes, hkeywords, hblanks⟩ := exists_listed_emptyShapes t
    refine ⟨keywords, blanks, hkeywords, hblanks, ?_⟩
    have hbalanced : isBalanced t = true ↔ pairs '{' = pairs '}' := isBalanced_iff t
    rw [faults, hshapes]
    by_cases h : pairs '{' = pairs '}'
    · simp [hbalanced.mpr h, h, Function.comp_def]
    · simp [mt hbalanced.mp h, h, Function.comp_def]
  · refine apart_of_mem_occurrences ?_ ht ho
    exact hx.elim IsEmptyKeyword.isKeyless IsEmptyBraces.isKeyless

/-- A shape in a third brace that stands twice, one with a keyword behind it, and a pair that stays open. -/
example :
    (faults (Text.ofString "{{{ }}}{{ }}{{Notes: }}" ++ openBraces)).map SyntaxFault.message =
      [SyntaxFault.mismatched.message, (SyntaxFault.malformed "{{Notes: }}").message,
        (SyntaxFault.malformed "{{ }}").message] := by decide

end SyntaxCheck

end PromptTemplate
