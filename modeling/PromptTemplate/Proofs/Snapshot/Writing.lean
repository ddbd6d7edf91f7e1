import Mathlib.Data.List.TakeWhile
import PromptTemplate.Proofs.Schema
import PromptTemplate.Proofs.Snapshot.Reader
import PromptTemplate.Proofs.Text.Cut
import PromptTemplate.Snapshot.File

/-!
# Snapshots written out again

A snapshot that was read from data is written out as the lists of its entries, every entry with all its
members. A member whose name has two words may be spelled with an underscore or in camel case, each entry as
it likes. What was lenient in the first reading is settled then: types, integers and flags have one form each,
and the key of a section is empty only where the slug of its title is (`Section.slug_of_key_eq_nil`). So what
is written reads as the same snapshot (`Snapshot.ofRaw_of_isWrittenAs`).
-/

namespace PromptTemplate

/-! ### Written entries -/

/-- How an object spells the names that have two words. -/
inductive Spelling where
  | snakeCase
  | camelCase
deriving DecidableEq

/-- The one of two names that is spelled so. -/
def Spelling.pick (sp : Spelling) (snakeCase camelCase : String) : String :=
  match sp with
  | .snakeCase => snakeCase
  | .camelCase => camelCase

/-- The same object, its members in any order. -/
inductive Data.Reordered : Data → Data → Prop
  | map {ms ms' : List (Text × Data)} (h : ms.Perm ms') : Reordered (.map ms) (.map ms')

/-- A field with all its members. -/
def Field.write (sp : Spelling) (f : Field) : Data := .object [
  ("key", .text f.key), ("label", .text f.label), ("type", .text f.type.name), ("value", .ofText? f.value),
  (sp.pick "section_id" "sectionId", .text f.sectionId),
  (sp.pick "section_title" "sectionTitle", .text f.sectionTitle),
  (sp.pick "order_index" "orderIndex", .int f.orderIndex), ("required", .bool f.required)]

/-- A note with all its members. -/
def Note.write (sp : Spelling) (n : Note) : Data := .object [
  (sp.pick "section_id" "sectionId", .text n.sectionId), ("markdown", .ofText? n.markdown)]

def Field.IsWrittenAs (f : Field) (d : Data) : Prop := ∃ sp, (f.write sp).Reordered d

def Section.IsWrittenAs (sec : Section) (d : Data) : Prop := sec.toData.Reordered d

def Note.IsWrittenAs (n : Note) (d : Data) : Prop := ∃ sp, (n.write sp).Reordered d

/-- The data is the snapshot as the full lists of its entries, each in a spelling of its own. -/
inductive Snapshot.IsWrittenAs (s : Snapshot) (d : Data) : Prop
  | lists {fields sections notes : List Data} (hfields : List.Forall₂ Field.IsWrittenAs s.fields fields)
    (hsections : List.Forall₂ Section.IsWrittenAs s.sections sections)
    (hnotes : List.Forall₂ Note.IsWrittenAs s.notes notes)
    (h : (Data.object [("fields", .list fields), ("sections", .list sections),
      ("notes", .list notes)]).Reordered d)

theorem Field.write_snakeCase (f : Field) : f.write .snakeCase = f.toData := rfl

theorem Note.write_snakeCase (n : Note) : n.write .snakeCase = n.toData := rfl

/-! ### Reading what is written -/

namespace Schema

/-- An object that is written with one name of each member is read in the order of the members. -/
theorem record?_of_object {names : List (List Text)} {members : List (String × Data)} {d : Data}
    (keys : List Text) (hmembers : (members.map fun m => Text.ofString m.1) = keys) (hkeys : keys.Nodup)
    (hnames : (names.map fun ns => ns.filter fun n => n ∈ keys) = keys.map fun key => [key])
    (h : (Data.object members).Reordered d) : record? names d = some (members.map fun m => some m.2) := by
  have hms : Table.keys (members.map fun m => (Text.ofString m.1, m.2)) = keys := by
    rw [← hmembers, Table.keys, List.map_map]
    rfl
  cases h with
  | map hperm =>
    have hcongr := record?_congr (Table.get?_eq_of_perm hperm (hms ▸ hkeys)) names
    rw [← hcongr, record?_of_keys (hms ▸ hkeys) (hms ▸ hnames), List.map_map]
    rfl

@[simp] theorem orNull?_ofText? (v : Option Text) : orNull? text? (.ofText? v) = some v := by
  cases v <;> rfl

theorem list?_of_forall₂ {α : Type} {read : Data → Option α} {as : List α} {ds : List Data}
    (h : List.Forall₂ (fun a d => read d = some a) as ds) : list? read (.list ds) = some as := by
  induction h with
  | nil => rfl
  | @cons a d as ds ha _ ih =>
    have ih : ds.mapM read = some as := ih
    rw [list?, List.mapM_cons, ha, ih]
    rfl

end Schema

@[simp] theorem FieldType.ofData?_name (type : FieldType) : ofData? (.text type.name) = some type := by
  cases type <;> decide +kernel

theorem Field.ofData?_of_isWrittenAs {f : Field} {d : Data} (h : f.IsWrittenAs d) : ofData? d = some f := by
  obtain ⟨sp, h⟩ := h
  unfold ofData?
  rw [Schema.record?_of_object ["key", "label", "type", "value", sp.pick "section_id" "sectionId",
    sp.pick "section_title" "sectionTitle", sp.pick "order_index" "orderIndex", "required"] rfl
    (by cases sp <;> decide) ?_ h]
  · simp [Schema.required, Schema.withDefault, Schema.text?, Schema.int?, Schema.bool?]
  · cases sp <;> decide

theorem Note.ofData?_of_isWrittenAs {n : Note} {d : Data} (h : n.IsWrittenAs d) : ofData? d = some n := by
  obtain ⟨sp, h⟩ := h
  unfold ofData?
  rw [Schema.record?_of_object [sp.pick "section_id" "sectionId", "markdown"] rfl
    (by cases sp <;> decide) ?_ h]
  · simp [Schema.required, Schema.withDefault, Schema.text?]
  · cases sp <;> decide

/-! ### Keys of sections -/

theorem Utf8.decode_ne_nil {bs : List UInt8} (hbs : bs ≠ []) : decode bs ≠ .ok [] := by
  obtain ⟨b, bs, rfl⟩ := List.exists_cons_of_ne_nil hbs
  intro h
  rw [decode, decodeFrom] at h
  split at h
  · obtain ⟨t, -, ht⟩ := exists_of_map_eq_ok h
    cases ht
  · cases h

/-- A title that begins with a letter or digit has a slug. -/
theorem Slug.ofTitle_ne_nil {c : CodePoint} (hc : isWordChar c = true) (t : Text) :
    ofTitle (c :: t) ≠ [] := by
  have hseparator : separator? (c :: t) = none := by
    simp [separator?, hc]
  have hunderscore : decide (c = .char '_') = false := by
    refine decide_eq_false ?_
    rintro rfl
    exact absurd hc (by decide)
  rw [ofTitle, Text.cut_cons_of_none hseparator, Cut.render_cons, Text.trimBy, List.dropWhile_cons_of_neg
    (by simp [hunderscore])]
  intro h
  rw [Text.toLowerAscii, List.map_eq_nil_iff, List.reverse_eq_nil_iff, List.dropWhile_eq_nil_iff] at h
  have hc' := h c (by simp)
  rw [hunderscore] at hc'
  cases hc'

/-- A given value that is read as text is read as one that is not empty. -/
theorem Schema.ne_nil_of_isGiven {d : Data} (hd : isGiven d = true) {t : Text} (h : text? d = some t) :
    t ≠ [] := by
  rintro rfl
  unfold text? at h
  split at h
  · cases h
    cases hd
  · rename_i bs
    have hbs : bs ≠ [] := by simpa [isGiven] using hd
    cases hdecode : Utf8.decode bs with
    | error f =>
      rw [hdecode] at h
      cases h
    | ok t =>
      rw [hdecode] at h
      cases h
      exact Utf8.decode_ne_nil hbs hdecode
  · cases h

/-- A section has no key only where its title has no slug: a key that is given is not empty, and a title that
was given as bytes is shown with a letter before its quotes. -/
theorem Section.slug_of_key_eq_nil {d : Data} {sec : Section} (h : ofData? d = some sec)
    (hkey : sec.key = []) : Slug.ofTitle sec.title = [] := by
  unfold ofData? at h
  split at h
  · rename_i id title key hr
    simp only [Option.bind_eq_bind, Option.bind_eq_some_iff, Option.some.injEq] at h
    obtain ⟨id', -, title', htitle, key', hkeyOf, rfl⟩ := h
    obtain rfl : key' = [] := hkey
    unfold keyOf? at hkeyOf
    split at hkeyOf
    · rename_i given hgiven
      exact absurd rfl (Schema.ne_nil_of_isGiven (Option.filter_eq_some_iff.mp hgiven).2 hkeyOf)
    · obtain ⟨x, rfl, hx⟩ := Option.bind_eq_some_iff.mp htitle
      have hslug : Slug.ofTitle (titleText x) = [] := Option.some.inj hkeyOf
      cases x with
      | text t =>
        cases hx
        exact hslug
      | bytes bs => exact absurd hslug (Slug.ofTitle_ne_nil (by decide) _)
      | _ => cases hx
  · cases h

theorem Section.ofData?_of_isWrittenAs {sec : Section} {d d' : Data} (h : ofData? d = some sec)
    (hw : sec.IsWrittenAs d') : ofData? d' = some sec := by
  have hkey : keyOf? (some (.text sec.key)) (some (.text sec.title)) = some sec.key := by
    by_cases hnil : sec.key = []
    · have hslug := slug_of_key_eq_nil h hnil
      have hgiven : ¬ Schema.isGiven (.text []) = true := by decide
      rw [keyOf?, hnil, Option.filter_some, if_neg hgiven]
      exact congrArg some hslug
    · have hgiven : Schema.isGiven (.text sec.key) = true := by simpa [Schema.isGiven] using hnil
      rw [keyOf?, Option.filter_some, if_pos hgiven]
      rfl
  unfold ofData?
  rw [Schema.record?_of_object ["id", "title", "key"] rfl (by decide) (by decide) hw]
  simp [Schema.required, Schema.text?, hkey]

/-! ### Snapshots -/

namespace Snapshot

variable {d d' : Data} {s : Snapshot}

/-- The sections of a snapshot that was read were each read. -/
theorem exists_ofData?_of_mem_sections (h : ofData? d = some s) {sec : Section} (hsec : sec ∈ s.sections) :
    ∃ x, Section.ofData? x = some sec := by
  unfold ofData? at h
  split at h
  · rename_i fields sections notes hr
    simp only [Option.bind_eq_bind, Option.bind_eq_some_iff, Option.some.injEq] at h
    obtain ⟨fs, -, secs, hsecs, ns, -, rfl⟩ := h
    obtain ⟨x, -, hread⟩ := Schema.exists_part_of_mem_list? hr (by simp) hsecs hsec
    exact ⟨x, hread⟩
  · cases h

theorem ofData?_of_isWrittenAs (h : ofData? d = some s) (hw : s.IsWrittenAs d') : ofData? d' = some s := by
  obtain ⟨hfields, hsections, hnotes, hlists⟩ := hw
  have hfields := Schema.list?_of_forall₂ (hfields.imp fun _ _ => Field.ofData?_of_isWrittenAs)
  have hnotes := Schema.list?_of_forall₂ (hnotes.imp fun _ _ => Note.ofData?_of_isWrittenAs)
  have hread := (List.forall₂_and_left s.sections _).mpr
    ⟨fun sec hsec => exists_ofData?_of_mem_sections h hsec, hsections⟩
  have hsections := Schema.list?_of_forall₂
    (hread.imp fun _ _ hsec => hsec.1.elim fun _ hx => Section.ofData?_of_isWrittenAs hx hsec.2)
  unfold ofData?
  rw [Schema.record?_of_object ["fields", "sections", "notes"] rfl (by decide) (by decide) hlists]
  simp [Schema.withDefault, hfields, hsections, hnotes]

/-- **A snapshot is a normal form of the data it was read from.** Written out in full, every entry in a
spelling of its own, it reads as the same snapshot: with the same entries, and so with the same look-up
tables. -/
theorem ofRaw_of_isWrittenAs {source : Text} (h : ofRaw source d = .ok s) (hw : s.IsWrittenAs d')
    (source' : Text) : ofRaw source' d' = .ok s := by
  have hread : ofData? d = some s := by
    unfold ofRaw at h
    split at h
    · rename_i hread
      exact hread.trans (congrArg some (Except.ok.inj h))
    · cases h
  rw [ofRaw, ofData?_of_isWrittenAs hread hw]

/-- An order given as a flag, a flag given as a word, keys of sections given as null and as zero. -/
theorem ofRaw_of_isWrittenAs_lenient :
    let field : Field := { key := "k", label := "K", sectionId := "x", orderIndex := 1, required := true }
    let s : Snapshot := {
      fields := [field]
      sections := [⟨"x", "An X", "an_x"⟩, ⟨"y", "?", []⟩]
      notes := [⟨"x", none⟩] }
    let d : Data := .object [
      ("fields", .list [.object [("key", .text "k"), ("label", .text "K"), ("type", .text " ShortText"),
        ("sectionId", .text "x"), ("order_index", .bool true), ("required", .text "Yes")]]),
      ("sections", .list [.object [("id", .text "x"), ("title", .text "An X"), ("key", .null)],
        .object [("id", .text "y"), ("title", .text "?"), ("key", .int 0)]]),
      ("notes", .list [.object [("sectionId", .text "x")]])]
    let d' : Data := .object [
      ("notes", .list [.object [("section_id", .text "x"), ("markdown", .null)]]),
      ("sections", .list [.object [("id", .text "x"), ("title", .text "An X"), ("key", .text "an_x")],
        .object [("id", .text "y"), ("title", .text "?"), ("key", .text [])]]),
      ("fields", .list [field.write .camelCase])]
    ofRaw "first" d = .ok s ∧ s.IsWrittenAs d' ∧ ofRaw "second" d' = .ok s := by
  intro field s d d'
  have hread : ofRaw "first" d = .ok s := by
    have hdata : ofData? d = some s := by decide +kernel
    rw [ofRaw, hdata]
  have hwritten : s.IsWrittenAs d' := by
    have hfield : field.IsWrittenAs (field.write .camelCase) := ⟨.camelCase, .map (.refl _)⟩
    have hnote : (Note.mk "x" none).IsWrittenAs (Note.write .snakeCase ⟨"x", none⟩) :=
      ⟨.snakeCase, .map (.refl _)⟩
    have hsection (sec : Section) : sec.IsWrittenAs sec.toData := .map (.refl _)
    exact .lists (.cons hfield .nil) (.cons (hsection _) (.cons (hsection _) .nil)) (.cons hnote .nil)
      (.map (List.reverse_perm _).symm)
  exact ⟨hread, hwritten, ofRaw_of_isWrittenAs hread hwritten "second"⟩

end Snapshot

end PromptTemplate
