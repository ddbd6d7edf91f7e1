import PromptTemplate.Proofs.Resolution.Dependence
import PromptTemplate.Proofs.Text.Scalar
import PromptTemplate.Proofs.Validation.Agreement

/-!
# Tokens that gave nothing

A resolved template lists the tokens that gave nothing by the text that took their place, while the status of
a token is set where its value is made. A value can come about in six ways (`Resolution.Outcome`), and in
each of them text and status tell the same story: what is missing stands in square brackets, what is empty is
no text or says that there are no notes, and any other value is a text of its own. Such a text may still read
as if something were missing or empty. That can happen with stored text alone, so it never happens to a token
for the whole snapshot, and a section never reads as empty (`resolveWithTokens_by_status`).
-/

namespace PromptTemplate

open Text

/-- The text begins with an opening bracket and ends with a closing one. -/
def Text.IsInBrackets (t : Text) : Prop := [.char '['] <+: t ∧ [.char ']'] <:+ t

instance (t : Text) : Decidable t.IsInBrackets := inferInstanceAs (Decidable (_ ∧ _))

theorem Text.isInBrackets_placeholder (message : String) (subject : Text) :
    (Resolution.placeholder message subject).IsInBrackets :=
  ⟨⟨Text.ofString message ++ Text.ofString ": " ++ subject ++ [.char ']'], by
    simp [Resolution.placeholder, Text.ofString]⟩, ⟨_, rfl⟩⟩

theorem yesNo_ne_nil (flag : Bool) : yesNo flag ≠ [] := by cases flag <;> decide

theorem Field.colon_mem_plainText {fields : List Field} (h : fields ≠ []) :
    .char ':' ∈ Field.plainText fields := by
  have hlength : (Field.inOrder fields).length ≠ 0 := by
    rw [Field.length_inOrder]
    exact mt List.length_eq_zero_iff.mp h
  obtain ⟨f, hf⟩ := List.exists_mem_of_length_pos (Nat.pos_of_ne_zero hlength)
  have hline : CodePoint.char ':' ∈ f.plainLine := by simp [Field.plainLine, Text.ofString]
  exact mem_joinWith_of_mem (List.mem_map_of_mem hf) hline

theorem Json.head?_write_map (style : Json.Style) (members : List (Text × Data)) :
    (Json.write style (.map members)).head? = some (.char '{') := by
  rw [Json.write, Json.writeAt, Json.bracket]
  split <;> simp

namespace Resolution

variable {s : Snapshot} {k : Token} {kind : TokenKind} {r : Resolution}

/-! ### How a value comes about -/

/-- What a token of a kind can come to. -/
inductive Outcome (kind : TokenKind) : Resolution → Prop
  /-- Nothing is there for the key. -/
  | missing (message : String) (subject : Text) : Outcome kind (missing message subject)
  /-- A field without a value. -/
  | unset (hkind : kind = .field) : Outcome kind ⟨[], .empty⟩
  /-- A section without notes. -/
  | withoutNotes (hkind : kind = .sectionNotes) : Outcome kind ⟨noNotes, .empty⟩
  /-- A text of the snapshot, or one of the words for a flag. -/
  | stored {v : Text} (hkind : kind = .field ∨ kind = .sectionNotes) (hv : v ≠ []) :
    Outcome kind ⟨v, .resolved⟩
  /-- The lines of a section, each with its label set off. -/
  | lines {v : Text} (hkind : kind = .sectionFields) (hv : .char ':' ∈ v) : Outcome kind ⟨v, .resolved⟩
  /-- A JSON object. -/
  | object {v : Text} (hv : v.head? = some (.char '{')) : Outcome kind ⟨v, .resolved⟩

theorem outcome_ofField (s : Snapshot) (key : Text) : Outcome .field (ofField s key) := by
  unfold ofField
  split
  · exact .missing _ _
  · split
    · exact .unset rfl
    · split
      · exact .unset rfl
      · rename_i v _ hne
        split
        · split
          · rename_i flag _
            exact .stored (.inl rfl) (yesNo_ne_nil flag)
          · exact .unset rfl
        · exact .stored (.inl rfl) (mt List.isEmpty_iff.mpr hne)

theorem outcome_ofSection (s : Snapshot) (id : Text) : Outcome .sectionFields (ofSection s id) := by
  unfold ofSection
  split
  · exact .missing _ _
  · split
    · exact .missing _ _
    · rename_i hne
      exact .lines rfl (Field.colon_mem_plainText hne)

theorem outcome_ofNotes (s : Snapshot) (id : Text) : Outcome .sectionNotes (ofNotes s id) := by
  unfold ofNotes
  split
  · exact .missing _ _
  · split
    · rename_i t ht
      have hblank : t.strip ≠ [] := by simpa using (Option.filter_eq_some_iff.mp ht).2
      refine .stored (.inr rfl) ?_
      rintro rfl
      exact hblank rfl
    · exact .withoutNotes rfl

/-- **Every token comes to one of the outcomes** of its kind. -/
theorem outcome_ofToken (s : Snapshot) (k : Token) : Outcome k.kind (ofToken s k) := by
  obtain ⟨kind, key, raw⟩ := k
  cases kind with
  | field => exact outcome_ofField s key
  | sectionFields => exact outcome_ofSection s key
  | sectionNotes => exact outcome_ofNotes s key
  | allFields | allNotes => exact .object (Json.head?_write_map _ _)

/-! ### What the text of a value tells -/

theorem isBracketed_iff {v : Text} : isBracketed v = true ↔ v.IsInBrackets := by
  rw [isBracketed, Bool.and_eq_true, decide_eq_true_iff, decide_eq_true_iff, IsInBrackets,
    List.singleton_prefix_iff_head?_eq_some, List.singleton_suffix_iff_getLast?_eq_some]

/-- The value stands for something missing, or it is a text that reads as if it did. -/
def TellsMissing (r : Resolution) : Prop := r.status = .missing ∨ r.status = .resolved ∧ r.value.IsInBrackets

/-- The value is empty, or it is a text that says that there are no notes. -/
def TellsEmpty (r : Resolution) : Prop := r.status = .empty ∨ r.status = .resolved ∧ r.value = noNotes

instance : DecidablePred TellsMissing := fun r => inferInstanceAs (Decidable (r.status = .missing ∨ _))

instance : DecidablePred TellsEmpty := fun r => inferInstanceAs (Decidable (r.status = .empty ∨ _))

/-- A resolved value is a text. -/
theorem Outcome.ne_nil (h : Outcome kind r) (hr : r.status = .resolved) : r.value ≠ [] := by
  cases h with
  | missing | unset | withoutNotes => cases hr
  | stored _ hv => exact hv
  | lines _ hv => exact List.ne_nil_of_mem hv
  | object hv => exact List.ne_nil_of_mem (List.mem_of_mem_head? hv)

/-- **A value is filed as missing** by its status or by its brackets. -/
theorem Outcome.readsMissing_iff (h : Outcome kind r) : r.readsMissing = true ↔ r.TellsMissing := by
  rw [readsMissing, isBracketed_iff, TellsMissing]
  cases h with
  | missing message subject => simp [Resolution.missing, isInBrackets_placeholder]
  | unset => decide
  | withoutNotes => decide
  | stored | lines | object => simp

/-- **A value is filed as empty** by its status or by what it says. -/
theorem Outcome.readsEmpty_iff (h : Outcome kind r) : r.readsEmpty = true ↔ r.TellsEmpty := by
  cases hr : r.status with
  | missing =>
    cases h with
    | missing message subject =>
      have hb : isBracketed (placeholder message subject) = true :=
        isBracketed_iff.mpr (isInBrackets_placeholder message subject)
      simp [Resolution.missing, readsEmpty, hb, TellsEmpty]
    | unset | withoutNotes | stored | lines | object => cases hr
  | empty =>
    cases h with
    | unset => decide
    | withoutNotes => decide
    | missing | stored | lines | object => cases hr
  | resolved =>
    have hb : isBracketed noNotes = false := by decide
    simp only [readsEmpty, TellsEmpty, hr, Bool.and_eq_true, Bool.or_eq_true, List.isEmpty_iff,
      h.ne_nil hr, false_or, decide_eq_true_iff, true_and, reduceCtorEq, Bool.not_eq_true']
    exact and_iff_right_of_imp fun hv => hv ▸ hb

/-- No value is filed twice. -/
theorem not_tellsMissing_and_tellsEmpty (r : Resolution) : ¬ (r.TellsMissing ∧ r.TellsEmpty) := by
  rintro ⟨hm | ⟨hr, hb⟩, he | ⟨hr', hv⟩⟩
  · rw [hm] at he
    cases he
  · rw [hm] at hr'
    cases hr'
  · rw [hr] at he
    cases he
  · rw [hv] at hb
    exact absurd hb (by decide)

/-- Only stored text and the lines of a section can stand in brackets. -/
theorem Outcome.kind_of_isInBrackets (h : Outcome kind r) (hr : r.status = .resolved)
    (hb : r.value.IsInBrackets) : kind ∈ [.field, .sectionFields, .sectionNotes] := by
  cases h with
  | missing | unset | withoutNotes => cases hr
  | stored hkind => rcases hkind with rfl | rfl <;> decide
  | lines hkind => rw [hkind]; decide
  | object hv =>
    have hopen := List.singleton_prefix_iff_head?_eq_some.mp hb.1
    rw [hv] at hopen
    cases hopen

/-- Only stored text can say that there are no notes. -/
theorem Outcome.kind_of_noNotes (h : Outcome kind r) (hr : r.status = .resolved) (hv : r.value = noNotes) :
    kind ∈ [.field, .sectionNotes] := by
  cases h with
  | missing | unset | withoutNotes => cases hr
  | stored hkind => rcases hkind with rfl | rfl <;> decide
  | lines _ hcolon =>
    obtain rfl := hv
    exact absurd hcolon (by decide)
  | object hhead =>
    obtain rfl := hv
    exact absurd hhead (by decide)

end Resolution

namespace Template

open Resolution

theorem filter_congr_tells (t : Text) (s : Snapshot) (bare : Bool) {reads : Resolution → Bool}
    {Tells : Resolution → Prop} [DecidablePred Tells]
    (h : ∀ k, reads (ofToken s k) = true ↔ Tells (ofToken s k)) :
    (resolutions t s bare).filter (fun p => reads p.2) = (resolutions t s bare).filter fun p => Tells p.2 := by
  refine List.filter_congr fun p hp => ?_
  rw [Validation.eq_ofToken_of_mem_resolutions hp, Bool.eq_iff_iff, decide_eq_true_iff]
  exact h _

/-- **Tokens are filed by their status**, and apart from that only where stored text reads like a message. -/
theorem resolveWithTokens_by_status (t : Text) (s : Snapshot) (bare : Bool) :
    let all := resolutions t s bare
    let r := resolveWithTokens t s bare
    r.missingTokens = (all.filter fun p => p.2.TellsMissing).map (·.1.token.raw) ∧
    r.emptyTokens = (all.filter fun p => p.2.TellsEmpty).map (·.1.token.raw) ∧
    ∀ p ∈ all, ¬ (p.2.TellsMissing ∧ p.2.TellsEmpty) ∧
      (p.2.status = .resolved → p.2.value.IsInBrackets →
        p.1.token.kind ∈ [.field, .sectionFields, .sectionNotes]) ∧
      (p.2.status = .resolved → p.2.value = noNotes → p.1.token.kind ∈ [.field, .sectionNotes]) := by
  intro all r
  refine ⟨?_, ?_, fun p hp => ⟨not_tellsMissing_and_tellsEmpty p.2, fun hr hb => ?_, fun hr hv => ?_⟩⟩
  · rw [← filter_congr_tells t s bare fun k => (outcome_ofToken s k).readsMissing_iff]
    rfl
  · rw [← filter_congr_tells t s bare fun k => (outcome_ofToken s k).readsEmpty_iff]
    rfl
  · rw [Validation.eq_ofToken_of_mem_resolutions hp] at hr hb
    exact (outcome_ofToken s _).kind_of_isInBrackets hr hb
  · rw [Validation.eq_ofToken_of_mem_resolutions hp] at hr hv
    exact (outcome_ofToken s _).kind_of_noNotes hr hv

-- a value in brackets, one bracket alone, and notes that say what is said of missing ones
example :
    let s : Snapshot := {
      fields := [{ key := "a", label := "A", value := some "[]", sectionId := "x" },
        { key := "b", label := "B", value := some "]", sectionId := "x" }]
      sections := [{ id := "x", title := "X", key := "x" }]
      notes := [{ sectionId := "x", markdown := some "(No notes)" }] }
    let r := resolveWithTokens "{{a}}{{b}}{{notes:x}}" s true
    r.missingTokens = [openBraces ++ "a" ++ closeBraces] ∧
      r.emptyTokens = [TokenKind.sectionNotes.token "x"] := by decide

end Template

end PromptTemplate
