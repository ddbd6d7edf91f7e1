import PromptTemplate.Proofs.Json.Parts
import PromptTemplate.Snapshot.Reader

/-!
# Snapshots read from data

The texts of a snapshot that is read from data stand in the data, but for the keys of sections. So where no
text of the data has a lone surrogate, no text of the snapshot has one (`Snapshot.isScalar_of_ofData?`), and
a snapshot has no more fields than a list of the data has items (`Snapshot.length_fields_le`).
-/

namespace PromptTemplate

open Data Text

/-- A value without bytes whose texts have no lone surrogates. -/
structure Data.IsClean (d : Data) : Prop where
  text : ∀ t, Part (.text t) d → t.isScalar = true
  bytes : ∀ bs, ¬ Part (.bytes bs) d

theorem Data.IsClean.part {x d : Data} (h : d.IsClean) (hx : Part x d) : x.IsClean :=
  ⟨fun t ht => h.text t (ht.trans hx), fun bs hbs => h.bytes bs (hbs.trans hx)⟩

/-! ### Members of records -/

namespace Schema

variable {d : Data} {names : List (List Text)} {ms : List (Option Data)}

theorem part_of_record? (h : record? names d = some ms) {x : Data} (hx : some x ∈ ms) : Part x d := by
  unfold record? at h
  split at h
  · dsimp only at h
    split_ifs at h
    cases h
    obtain ⟨name, -, hname⟩ := List.mem_map.mp hx
    obtain ⟨key, -, hget⟩ := Option.bind_eq_some_iff.mp hname
    obtain ⟨m, hm, rfl⟩ := Option.map_eq_some_iff.mp hget
    exact .member (List.mem_of_find?_eq_some hm) .self
  · cases h

theorem isScalar_of_text? (hd : d.IsClean) {t : Text} (h : text? d = some t) : t.isScalar = true := by
  unfold text? at h
  split at h
  · cases h
    exact hd.text _ .self
  · exact absurd .self (hd.bytes _)
  · cases h

theorem length_of_text? {n : Nat} (hd : d.FitsIn n) {t : Text} (h : text? d = some t) : t.length ≤ n := by
  cases hd with
  | text hlength =>
    cases h
    exact hlength
  | _ => cases h

/-- The value of an optional member that is there and not null was read from it. -/
theorem read_of_orNull? {α : Type} {read : Data → Option α} {a : α} (h : orNull? read d = some (some a)) :
    read d = some a := by
  unfold orNull? at h
  split at h
  · cases h
  · obtain ⟨b, hb, heq⟩ := Option.map_eq_some_iff.mp h
    cases heq
    exact hb

section Members

variable {α : Type} {read : Data → Option α} {a : α} {m : Option Data}
variable (hr : record? names d = some ms) (hm : m ∈ ms)
include hr hm

theorem exists_part_of_required (h : required read m = some a) : ∃ x, Part x d ∧ read x = some a := by
  obtain ⟨x, rfl, hx⟩ := Option.bind_eq_some_iff.mp h
  exact ⟨x, part_of_record? hr hm, hx⟩

theorem eq_or_exists_part_of_withDefault {fallback : α} (h : withDefault fallback read m = some a) :
    a = fallback ∨ ∃ x, Part x d ∧ read x = some a := by
  cases m with
  | none =>
    cases h
    exact .inl rfl
  | some x => exact .inr ⟨x, part_of_record? hr hm, h⟩

end Members

variable {m : Option Data}

theorem isScalar_of_required (hd : d.IsClean) (hr : record? names d = some ms) (hm : m ∈ ms) {t : Text}
    (h : required text? m = some t) : t.isScalar = true := by
  obtain ⟨x, hx, hread⟩ := exists_part_of_required hr hm h
  exact isScalar_of_text? (hd.part hx) hread

theorem isScalar_of_withDefault (hd : d.IsClean) (hr : record? names d = some ms) (hm : m ∈ ms) {t : Text}
    (h : withDefault [] text? m = some t) : t.isScalar = true := by
  rcases eq_or_exists_part_of_withDefault hr hm h with rfl | ⟨x, hx, hread⟩
  · rfl
  · exact isScalar_of_text? (hd.part hx) hread

theorem isScalar_of_orNull? (hd : d.IsClean) (hr : record? names d = some ms) (hm : m ∈ ms)
    {o : Option Text} (h : withDefault none (orNull? text?) m = some o) : ∀ t ∈ o, t.isScalar = true := by
  rintro t ht
  obtain rfl := Option.mem_def.mp ht
  rcases eq_or_exists_part_of_withDefault hr hm h with hnone | ⟨x, hx, hread⟩
  · cases hnone
  · exact isScalar_of_text? (hd.part hx) (read_of_orNull? hread)

theorem exists_of_list? {α : Type} {read : Data → Option α} {as : List α} (h : list? read d = some as) :
    ∃ items, d = .list items ∧ items.mapM read = some as := by
  cases d with
  | list items => exact ⟨items, rfl, h⟩
  | _ => cases h

/-- The items of a list that may be missing were each read from a part of the record. -/
theorem exists_part_of_mem_list? {α : Type} {read : Data → Option α} {as : List α}
    (hr : record? names d = some ms) (hm : m ∈ ms) (h : withDefault [] (list? read) m = some as) {a : α}
    (ha : a ∈ as) : ∃ x, Part x d ∧ read x = some a := by
  rcases eq_or_exists_part_of_withDefault hr hm h with rfl | ⟨x, hx, hlist⟩
  · cases ha
  · obtain ⟨items, rfl, hall⟩ := exists_of_list? hlist
    obtain ⟨y, hy, hread⟩ := exists_of_mem_mapM hall ha
    exact ⟨y, (Part.item hy .self).trans hx, hread⟩

theorem length_of_list? {α : Type} {read : Data → Option α} {as : List α} {n : Nat} (hd : d.FitsIn n)
    (hr : record? names d = some ms) (hm : m ∈ ms) (h : withDefault [] (list? read) m = some as) :
    as.length ≤ n := by
  rcases eq_or_exists_part_of_withDefault hr hm h with rfl | ⟨x, hx, hlist⟩
  · exact Nat.zero_le _
  · obtain ⟨items, rfl, hall⟩ := exists_of_list? hlist
    cases hd.part hx with
    | list hlength _ => exact (forall₂_of_mapM_eq_some hall).length_eq ▸ hlength

end Schema

/-! ### Snapshots -/

/-- A field none of whose texts has a lone surrogate. -/
structure Field.IsScalar (f : Field) : Prop where
  key : f.key.isScalar = true
  label : f.label.isScalar = true
  value : ∀ v ∈ f.value, v.isScalar = true
  sectionId : f.sectionId.isScalar = true
  sectionTitle : f.sectionTitle.isScalar = true

structure Section.IsScalar (sec : Section) : Prop where
  id : sec.id.isScalar = true
  title : sec.title.isScalar = true

structure Note.IsScalar (n : Note) : Prop where
  sectionId : n.sectionId.isScalar = true
  markdown : ∀ t ∈ n.markdown, t.isScalar = true

/-- A snapshot none of whose texts has a lone surrogate. The keys of sections are not shown. -/
structure Snapshot.IsScalar (s : Snapshot) : Prop where
  fields : ∀ f ∈ s.fields, f.IsScalar
  sections : ∀ sec ∈ s.sections, sec.IsScalar
  notes : ∀ n ∈ s.notes, n.IsScalar

variable {d : Data}

theorem Field.isScalar_of_ofData? (hd : d.IsClean) {f : Field} (h : ofData? d = some f) : f.IsScalar := by
  unfold ofData? at h
  split at h
  · rename_i key label type value sectionId sectionTitle orderIndex required hr
    simp only [Option.bind_eq_bind, Option.bind_eq_some_iff, Option.some.injEq] at h
    obtain ⟨key', hkey, label', hlabel, -, -, value', hvalue, id', hid, title', htitle, -, -, -, -, rfl⟩ := h
    exact {
      key := Schema.isScalar_of_required hd hr (by simp) hkey
      label := Schema.isScalar_of_required hd hr (by simp) hlabel
      value := Schema.isScalar_of_orNull? hd hr (by simp) hvalue
      sectionId := Schema.isScalar_of_required hd hr (by simp) hid
      sectionTitle := Schema.isScalar_of_withDefault hd hr (by simp) htitle }
  · cases h

theorem Section.isScalar_of_ofData? (hd : d.IsClean) {sec : Section} (h : ofData? d = some sec) :
    sec.IsScalar := by
  unfold ofData? at h
  split at h
  · rename_i id title key hr
    simp only [Option.bind_eq_bind, Option.bind_eq_some_iff, Option.some.injEq] at h
    obtain ⟨id', hid, title', htitle, -, -, rfl⟩ := h
    exact ⟨Schema.isScalar_of_required hd hr (by simp) hid,
      Schema.isScalar_of_required hd hr (by simp) htitle⟩
  · cases h

theorem Note.isScalar_of_ofData? (hd : d.IsClean) {n : Note} (h : ofData? d = some n) : n.IsScalar := by
  unfold ofData? at h
  split at h
  · rename_i id markdown hr
    simp only [Option.bind_eq_bind, Option.bind_eq_some_iff, Option.some.injEq] at h
    obtain ⟨id', hid, markdown', hmarkdown, rfl⟩ := h
    exact ⟨Schema.isScalar_of_required hd hr (by simp) hid,
      Schema.isScalar_of_orNull? hd hr (by simp) hmarkdown⟩
  · cases h

namespace Snapshot

variable {s : Snapshot}

theorem isScalar_of_ofData? (hd : d.IsClean) (h : ofData? d = some s) : s.IsScalar := by
  unfold ofData? at h
  split at h
  · rename_i fields sections notes hr
    simp only [Option.bind_eq_bind, Option.bind_eq_some_iff, Option.some.injEq] at h
    obtain ⟨fs, hfs, secs, hsecs, ns, hns, rfl⟩ := h
    refine ⟨fun f hf => ?_, fun sec hsec => ?_, fun n hn => ?_⟩
    · obtain ⟨x, hx, hread⟩ := Schema.exists_part_of_mem_list? hr (by simp) hfs hf
      exact Field.isScalar_of_ofData? (hd.part hx) hread
    · obtain ⟨x, hx, hread⟩ := Schema.exists_part_of_mem_list? hr (by simp) hsecs hsec
      exact Section.isScalar_of_ofData? (hd.part hx) hread
    · obtain ⟨x, hx, hread⟩ := Schema.exists_part_of_mem_list? hr (by simp) hns hn
      exact Note.isScalar_of_ofData? (hd.part hx) hread
  · cases h

theorem length_fields_le {n : Nat} (hd : d.FitsIn n) (h : ofData? d = some s) : s.fields.length ≤ n := by
  unfold ofData? at h
  split at h
  · rename_i fields sections notes hr
    simp only [Option.bind_eq_bind, Option.bind_eq_some_iff, Option.some.injEq] at h
    obtain ⟨fs, hfs, -, -, -, -, rfl⟩ := h
    exact Schema.length_of_list? hd hr (by simp) hfs
  · cases h

end Snapshot

end PromptTemplate
