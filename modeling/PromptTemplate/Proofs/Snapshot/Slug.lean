import PromptTemplate.Proofs.Template.Insertion
import PromptTemplate.Proofs.Template.Shapes
import PromptTemplate.Proofs.Text.Case
import PromptTemplate.Proofs.Text.Join
import PromptTemplate.Snapshot.Slug

/-!
# Slugs as normal forms

A slug comes of three changes to a title: every separator is replaced, the ends are trimmed, and what is left is
put in lower case. What comes out depends on the runs of letters and digits of the title alone (`words`): they
are found again in the slug (`words_ofTitle`), so the slug is a normal form of the title
(`ofTitle_normalForm`). A slug that is not empty is a key.
-/

namespace PromptTemplate

open Text

namespace Slug

/-! ### The runs of a text -/

/-- The maximal runs of letters and digits of a text, in order: what stands between its other code points, but
for empty parts. -/
def words (t : Text) : List Text := (t.splitOnP (!isWordChar ·)).filter (· ≠ [])

/-- A run: not empty, and letters and digits alone. -/
def IsWord (w : Text) : Prop := w ≠ [] ∧ ∀ c ∈ w, isWordChar c = true

variable {c : CodePoint} {t u w : Text} {ws : List Text}

/-- No run reaches over a code point that is no letter and no digit. -/
theorem words_append_cons (hc : isWordChar c = false) (t u : Text) : words (t ++ c :: u) = words t ++ words u := by
  rw [words, List.splitOnP_append_cons t u (by simp [hc]), List.filter_append]
  rfl

/-- A run is not divided. -/
theorem words_of_isWord (hw : IsWord w) : words w = [w] := by
  have hwhole : w.splitOnP (!isWordChar ·) = [w] :=
    List.splitOnP_eq_singleton fun c hc => by simp [hw.2 c hc]
  rw [words, hwhole]
  simp [hw.1]

theorem isWord_of_mem_words (h : w ∈ words t) : IsWord w := by
  obtain ⟨hpart, hne⟩ := List.mem_filter.mp h
  exact ⟨of_decide_eq_true hne, fun c hc => by simpa using not_of_mem_splitOnP hpart c hc⟩

/-- Runs joined with an underscore are found again. -/
theorem words_joinWith (h : ∀ w ∈ ws, IsWord w) : words (joinWith [.char '_'] ws) = ws := by
  induction ws with
  | nil => rfl
  | cons w ws ih =>
    rw [List.forall_mem_cons] at h
    cases ws with
    | nil => exact words_of_isWord h.1
    | cons v ws =>
      rw [joinWith, List.append_assoc, List.singleton_append, words_append_cons (by decide),
        words_of_isWord h.1, ih h.2]
      rfl

/-! ### Separators -/

theorem separator?_eq_some_iff {s : Text} :
    separator? t = some s ↔ s ≠ [] ∧ t.takeWhile (!isWordChar ·) = s := by
  unfold separator?
  split
  · rename_i h
    simp only [reduceCtorEq, false_iff, not_and]
    exact fun hne hs => hne (hs.symm.trans h)
  · rename_i h
    rw [Option.some.injEq]
    exact ⟨fun hs => ⟨hs ▸ h, hs⟩, And.right⟩

theorem separator?_eq_none_iff : separator? t = none ↔ ∀ c ∈ t.head?, isWordChar c = true := by
  cases t with
  | nil => simp [separator?]
  | cons c t =>
    cases hc : isWordChar c <;> simp [separator?, hc]

/-- A separator takes all there is up to the next letter or digit. -/
theorem separator?_append {s : Text} (h : separator? (s ++ t) = some s) :
    s ≠ [] ∧ (∀ c ∈ s, isWordChar c = false) ∧ ∀ c ∈ t.head?, isWordChar c = true := by
  obtain ⟨hne, htake⟩ := separator?_eq_some_iff.mp h
  have hsep : ∀ c ∈ s, isWordChar c = false := fun c hc => by
    rw [← htake] at hc
    simpa using List.mem_takeWhile_imp hc
  refine ⟨hne, hsep, fun c hc => ?_⟩
  -- what could still be taken from `t` would be longer than the separator
  rw [List.takeWhile_append_of_pos (by simpa using hsep)] at htake
  have hnil : t.takeWhile (!isWordChar ·) = [] := List.append_cancel_left (htake.trans (List.append_nil s).symm)
  obtain ⟨u, rfl⟩ := List.head?_eq_some_iff.mp hc
  simpa using hnil

theorem anchored_separator? : Anchored separator? id := fun t s h => by
  obtain ⟨hne, rfl⟩ := separator?_eq_some_iff.mp h
  exact ⟨hne, List.takeWhile_prefix _⟩

theorem lead_cut_ne_nil (ht : t ≠ []) (hhead : ∀ c ∈ t.head?, isWordChar c = true) :
    (t.cut separator? id).lead ≠ [] := by
  obtain ⟨c, t, rfl⟩ := List.exists_cons_of_ne_nil ht
  rw [cut_cons_of_none (separator?_eq_none_iff.mpr hhead)]
  exact List.cons_ne_nil _ _

/-- The literal texts of a title cut at its separators are its parts between single code points, but for
empty parts; and only the first and the last of them can be empty. -/
theorem literals_cut (t : Text) :
    ∃ rest, t.splitOnP (!isWordChar ·) = (t.cut separator? id).lead :: rest ∧
      rest.filter (· ≠ []) = ((t.cut separator? id).rest.map Prod.snd).filter (· ≠ []) ∧
      [] ∉ ((t.cut separator? id).rest.map Prod.snd).dropLast := by
  induction t using cut_induction anchored_separator? with
  | nil => exact ⟨[], rfl, rfl, List.not_mem_nil⟩
  | literal c t hc ih =>
    obtain ⟨rest, hparts, hrest⟩ := ih
    have hword : isWordChar c = true := separator?_eq_none_iff.mp hc c rfl
    refine ⟨rest, ?_, ?_⟩
    · rw [cut_cons_of_none hc, List.splitOnP_cons_eq_if_modifyHead, hparts]
      simp [hword, Cut.cons]
    · rwa [cut_cons_of_none hc]
  | hit s t hne hs ih =>
    obtain ⟨rest, hparts, hfilter, hinner⟩ := ih
    obtain ⟨-, hsep, hhead⟩ := separator?_append hs
    have hcut := cut_append_of_some hne hs
    obtain ⟨x, s', rfl⟩ := List.exists_cons_of_ne_nil hne
    rw [hcut]
    refine ⟨List.replicate s'.length [] ++ (t.cut separator? id).lead :: rest, ?_, ?_, ?_⟩
    · rw [id, splitOnP_append_of_forall (fun c hc => by simp [hsep c hc]), hparts]
      rfl
    · rw [List.filter_append, List.filter_eq_nil_iff.mpr (by simp +contextual), List.nil_append, Cut.consHit,
        List.map_cons, List.filter_cons, List.filter_cons, hfilter]
    · intro hmem
      rw [Cut.consHit, List.map_cons] at hmem
      cases hr : (t.cut separator? id).rest with
      | nil => simp [hr] at hmem
      | cons p r =>
        rw [List.dropLast_cons_of_ne_nil (by simp [hr])] at hmem
        rcases List.mem_cons.mp hmem with hlead | hmem
        · -- the literal text behind a separator is empty at the end of the title only
          have ht : t ≠ [] := by
            rintro rfl
            simp [cut, cutFrom] at hr
          exact lead_cut_ne_nil ht hhead hlead.symm
        · exact hinner hmem

/-! ### The trimmed title -/

/-- The runs of a title with an underscore between them are what the separators replaced and trimmed leave. -/
theorem trimBy_render (title : Text) :
    ((title.cut separator? id).render fun _ => [.char '_']).trimBy (· = .char '_') =
      joinWith [.char '_'] (words title) := by
  obtain ⟨rest, hparts, hfilter, hinner⟩ := literals_cut title
  have hwords : words title = (title.cut separator? id).literals.filter (· ≠ []) := by
    rw [words, hparts, Cut.literals, List.filter_cons, List.filter_cons, hfilter]
  have hnone : ∀ t ∈ (title.cut separator? id).literals, .char '_' ∉ t := by
    intro t ht hmem
    have hne : t ≠ [] := List.ne_nil_of_mem hmem
    have hword : IsWord t := isWord_of_mem_words (hwords ▸ List.mem_filter.mpr ⟨ht, by simpa using hne⟩)
    exact absurd (hword.2 _ hmem) (by decide)
  have hends : ∀ t ∈ (title.cut separator? id).literals.tail.dropLast, t.isEmpty = false := by
    intro t ht
    cases t with
    | nil => exact absurd ht hinner
    | cons => rfl
  rw [Cut.render_const, trimBy_joinWith hnone, hwords, rdropWhile_dropWhile_eq_filter hends]
  congr 1
  exact List.filter_congr fun t _ => by cases t <;> simp

theorem ofTitle_eq (title : Text) : ofTitle title = joinWith [.char '_'] ((words title).map toLowerAscii) := by
  rw [ofTitle, trimBy_render, toLowerAscii_joinWith]
  rfl

/-! ### Letters and digits in lower case -/

theorem isKeyChar_of_isWordChar (hc : isWordChar c = true) : c.isKeyChar = true := by
  simp [CodePoint.isKeyChar, (Bool.or_eq_true _ _).mp hc]

theorem isKeyChar_of_mem_joinWith (h : ∀ w ∈ ws, IsWord w) :
    ∀ c ∈ joinWith [.char '_'] ws, c.isKeyChar = true := by
  induction ws with
  | nil => exact fun c hc => absurd hc List.not_mem_nil
  | cons w ws ih =>
    rw [List.forall_mem_cons] at h
    have hw : ∀ c ∈ w, c.isKeyChar = true := fun c hc => isKeyChar_of_isWordChar (h.1.2 c hc)
    cases ws with
    | nil => exact hw
    | cons v ws =>
      rw [joinWith]
      simp only [List.forall_mem_append, List.forall_mem_singleton]
      exact ⟨⟨hw, by decide⟩, ih h.2⟩

/-- A key is plain ASCII. -/
theorem lt_of_isKeyChar (hc : c.isKeyChar = true) : c.toNat < 0x80 := by
  have hbound := (CodePoint.toNat_of_isInner (CodePoint.isInner_of_isKeyChar hc)).2
  omega

theorem toLowerAscii_of_isWordChar (hc : isWordChar c = true) :
    isWordChar c.toLowerAscii = true ∧ c.toLowerAscii.toLowerAscii = c.toLowerAscii := by
  have hascii : ∀ n : Fin 0x80, isWordChar (.char (Char.ofNat n)) = true →
      isWordChar (CodePoint.char (Char.ofNat n)).toLowerAscii = true ∧
        (CodePoint.char (Char.ofNat n)).toLowerAscii.toLowerAscii = (CodePoint.char (Char.ofNat n)).toLowerAscii := by
    decide +kernel
  cases c with
  | surrogate n => cases hc
  | char x =>
    have hx := hascii ⟨x.toNat, lt_of_isKeyChar (isKeyChar_of_isWordChar hc)⟩
    rw [Char.ofNat_toNat] at hx
    exact hx hc

theorem IsWord.toLowerAscii (hw : IsWord w) : IsWord w.toLowerAscii := by
  refine ⟨fun h => hw.1 (List.map_eq_nil_iff.mp h), fun c hc => ?_⟩
  obtain ⟨d, hd, rfl⟩ := List.mem_map.mp hc
  exact (toLowerAscii_of_isWordChar (hw.2 d hd)).1

theorem IsWord.toLowerAscii_toLowerAscii (hw : IsWord w) : w.toLowerAscii.toLowerAscii = w.toLowerAscii := by
  rw [Text.toLowerAscii, Text.toLowerAscii, List.map_map]
  exact List.map_congr_left fun c hc => (toLowerAscii_of_isWordChar (hw.2 c hc)).2

/-! ### Normal forms -/

theorem isWord_of_mem_map (h : w ∈ (words t).map Text.toLowerAscii) : IsWord w := by
  obtain ⟨v, hv, rfl⟩ := List.mem_map.mp h
  exact (isWord_of_mem_words hv).toLowerAscii

/-- The runs of a slug are those of its title in lower case. -/
theorem words_ofTitle (title : Text) : words (ofTitle title) = (words title).map Text.toLowerAscii := by
  rw [ofTitle_eq, words_joinWith fun w => isWord_of_mem_map]

theorem ofTitle_ofTitle (title : Text) : ofTitle (ofTitle title) = ofTitle title := by
  rw [ofTitle_eq, words_ofTitle, List.map_map, ofTitle_eq]
  congr 1
  exact List.map_congr_left fun w hw => (isWord_of_mem_words hw).toLowerAscii_toLowerAscii

theorem ofTitle_eq_iff {title other : Text} :
    ofTitle title = ofTitle other ↔ (words title).map Text.toLowerAscii = (words other).map Text.toLowerAscii := by
  constructor
  · intro h
    rw [← words_ofTitle, h, words_ofTitle]
  · intro h
    rw [ofTitle_eq, h, ofTitle_eq]

theorem isKey_ofTitle {title : Text} (h : ofTitle title ≠ []) : IsKey (ofTitle title) := by
  refine ⟨h, ?_⟩
  rw [ofTitle_eq]
  exact isKeyChar_of_mem_joinWith fun w => isWord_of_mem_map

/-- The full lower-casing of what the separators leave is the slug: it is plain ASCII. -/
theorem lower_trimBy_render (title : Text) :
    (((title.cut separator? id).render fun _ => [.char '_']).trimBy (· = .char '_')).lower = ofTitle title := by
  rw [ofTitle, lower_of_ascii]
  intro c hc
  rw [trimBy_render] at hc
  exact lt_of_isKeyChar (isKeyChar_of_mem_joinWith (fun w => isWord_of_mem_words) c hc)

/-- **A slug is the normal form of a title**: the runs of letters and digits of the title in lower case with one
underscore between them, in the lower case of ASCII as in the full one. It is the slug of itself, two titles
have one slug when and only when their runs differ in ASCII case at most, and a slug that is not empty is a key:
the section token with it is one token, with this key. -/
theorem ofTitle_normalForm (title : Text) :
    ofTitle title = joinWith [.char '_'] ((words title).map Text.toLowerAscii) ∧
      (((title.cut separator? id).render fun _ => [.char '_']).trimBy (· = .char '_')).lower = ofTitle title ∧
      ofTitle (ofTitle title) = ofTitle title ∧
      (∀ other, ofTitle title = ofTitle other ↔
        (words title).map Text.toLowerAscii = (words other).map Text.toLowerAscii) ∧
      (ofTitle title ≠ [] → IsKey (ofTitle title) ∧ ∀ bare,
        Template.occurrences bare (TokenKind.sectionFields.token (ofTitle title)) =
          [⟨⟨.sectionFields, ofTitle title, TokenKind.sectionFields.token (ofTitle title)⟩, 0,
            (TokenKind.sectionFields.token (ofTitle title)).length⟩]) := by
  refine ⟨ofTitle_eq title, lower_trimBy_render title, ofTitle_ofTitle title, fun other => ofTitle_eq_iff,
    fun h => ?_⟩
  have hkey := isKey_ofTitle h
  exact ⟨hkey, Template.occurrences_token (by simp) hkey⟩

/-- What is no letter or digit of ASCII separates, an accented letter too. -/
theorem ofTitle_accented :
    ofTitle "  Caf\u00E9 & Q3-PLAN__ " = "caf_q3_plan" ∧
      ofTitle "  Caf\u00E9 & Q3-PLAN__ " = ofTitle "CAF/q3/Plan" ∧
      Template.occurrences false (TokenKind.sectionFields.token (ofTitle "  Caf\u00E9 & Q3-PLAN__ ")) =
        [⟨⟨.sectionFields, ofTitle "  Caf\u00E9 & Q3-PLAN__ ",
          TokenKind.sectionFields.token (ofTitle "  Caf\u00E9 & Q3-PLAN__ ")⟩, 0, 23⟩] := by
  obtain ⟨hslug, -, -, hsame, hkey⟩ := ofTitle_normalForm "  Caf\u00E9 & Q3-PLAN__ "
  have hcaf : ofTitle "  Caf\u00E9 & Q3-PLAN__ " = "caf_q3_plan" := by
    rw [hslug]
    decide +kernel
  refine ⟨hcaf, (hsame _).mpr (by decide +kernel), ?_⟩
  rw [(hkey (by rw [hcaf]; decide)).2 false, hcaf]
  rfl

end Slug

end PromptTemplate
