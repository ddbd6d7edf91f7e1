import Mathlib.Algebra.Ring.Nat
import Mathlib.Data.List.Find
import Mathlib.Data.List.Nodup
import PromptTemplate.Proofs.Text.Distinct
import PromptTemplate.Table

/-!
# Tables as maps

A loop that changes a table only by `alter` leaves each key once, at the place where it is first seen
(`keys_foldl_alter`). Where entries are set one after the other, the last entry of a key stands
(`listsLast_foldl_set`), whereas `firstByKey` keeps the first (`listsFirst_firstByKey`): further items behind those
of a table leave its entries as they are (`firstByKey_prefix`). The groups of `groupByKey` hold every item once
(`flatMap_groupByKey_perm`). Entries with distinct keys are found in any order (`find?_eq_of_perm`).
-/

namespace PromptTemplate.Table

open Text

variable {α : Type}

theorem isSome_get?_iff {t : Table α} {key : Text} : (t.get? key).isSome ↔ key ∈ t.keys := by
  simp [get?, keys]

theorem keys_alter (key : Text) (f : Option α → α) (t : Table α) :
    keys (alter key f t) = if key ∈ t.keys then t.keys else t.keys ++ [key] := by
  induction t with
  | nil => rfl
  | cons e t ih =>
    obtain ⟨k, a⟩ := e
    by_cases hk : k = key
    · subst hk
      simp [alter, keys]
    · have hne : ¬ key = k := fun h => hk h.symm
      have hcons : keys ((k, a) :: t) = k :: keys t := rfl
      rw [alter, if_neg hk, keys, List.map_cons, ← keys, ih, hcons]
      simp only [List.mem_cons, hne, false_or]
      split <;> rfl

/-- A new key goes to the end. -/
theorem alter_of_notMem {t : Table α} {key : Text} (h : key ∉ t.keys) (f : Option α → α) :
    alter key f t = t ++ [(key, f none)] := by
  induction t with
  | nil => rfl
  | cons e t ih =>
    obtain ⟨k, a⟩ := e
    simp only [keys, List.map_cons, List.mem_cons, not_or] at h
    rw [alter, if_neg (Ne.symm h.1), ih h.2, List.cons_append]

theorem mem_of_mem_set {t : Table α} {key : Text} {a : α} {e : Text × α} (h : e ∈ t.set key a) :
    e = (key, a) ∨ e ∈ t := by
  induction t with
  | nil => exact .inl (List.mem_singleton.mp h)
  | cons e' t ih =>
    obtain ⟨k, b⟩ := e'
    unfold set at ih h
    unfold alter at h
    split at h
    · rename_i hk
      subst hk
      exact (List.mem_cons.mp h).imp_right fun h => List.mem_cons_of_mem _ h
    · rcases List.mem_cons.mp h with rfl | h
      · exact .inr (List.mem_cons_self ..)
      · exact (ih h).imp_right fun h => List.mem_cons_of_mem _ h

theorem mem_of_mem_foldl_set {entries : List (Text × α)} {t : Table α} {e : Text × α}
    (h : e ∈ entries.foldl (fun t e => t.set e.1 e.2) t) : e ∈ entries ∨ e ∈ t := by
  induction entries generalizing t with
  | nil => exact .inr h
  | cons e' entries ih =>
    rcases ih h with h | h
    · exact .inl (List.mem_cons_of_mem _ h)
    · exact (mem_of_mem_set h).imp_left fun h => List.mem_cons.mpr (.inl h)

/-- **The last entry of a key stands.** -/
theorem get?_foldl_set (entries : List (Text × α)) (t : Table α) (key : Text) :
    get? (entries.foldl (fun t e => t.set e.1 e.2) t) key =
      ((entries.filter fun e => e.1 = key).getLast?.map Prod.snd).or (t.get? key) := by
  induction entries generalizing t with
  | nil => rfl
  | cons e entries ih =>
    rw [List.foldl_cons, ih, set, get?_alter]
    by_cases he : e.1 = key
    · rw [List.filter_cons_of_pos (by simpa using he), if_pos he.symm]
      cases h : (entries.filter fun e => e.1 = key).getLast? <;> simp [List.getLast?_cons, h]
    · rw [List.filter_cons_of_neg (by simpa using he), if_neg (Ne.symm he)]

/-! ### First entries -/

/-- The first value of a key stays. -/
theorem setNew_of_mem {t : Table α} {key : Text} (h : key ∈ t.keys) (a : α) : t.setNew key a = t := by
  induction t with
  | nil => cases h
  | cons e t ih =>
    obtain ⟨k, b⟩ := e
    rw [keys, List.map_cons, List.mem_cons] at h
    rw [setNew, alter]
    split
    · rfl
    · rename_i hk
      exact congrArg _ (ih (h.resolve_left (Ne.symm hk)))

/-- **One item more** changes no entry that is there: it goes to the end, or nowhere. -/
theorem prefix_setNew (t : Table α) (key : Text) (a : α) : t <+: t.setNew key a := by
  by_cases h : key ∈ t.keys
  · exact (setNew_of_mem h a).symm ▸ List.prefix_refl t
  · rw [setNew, alter_of_notMem h]
    exact List.prefix_append t _

theorem prefix_foldl_setNew (key : α → Text) (items : List α) (t : Table α) :
    t <+: items.foldl (fun t a => setNew t (key a) a) t := by
  induction items generalizing t with
  | nil => exact List.prefix_refl t
  | cons a items ih => exact (prefix_setNew t (key a) a).trans (ih _)

/-- **Any number of items more**, whatever their keys. -/
theorem firstByKey_prefix (key : α → Text) {as bs : List α} (h : as <+: bs) :
    firstByKey key as <+: firstByKey key bs := by
  obtain ⟨cs, rfl⟩ := h
  rw [firstByKey, firstByKey, List.foldl_append]
  exact prefix_foldl_setNew key cs _

theorem get?_of_prefix {t u : Table α} (h : t <+: u) {key : Text} {a : α} (ha : t.get? key = some a) :
    u.get? key = some a := by
  obtain ⟨v, rfl⟩ := h
  obtain ⟨e, he, rfl⟩ := Option.map_eq_some_iff.mp ha
  rw [get?, List.find?_append, he]
  rfl

/-! ### Entries with distinct keys -/

theorem find?_eq_some_of_mem {key : α → Text} {as : List α} (h : (as.map key).Nodup) {a : α} (ha : a ∈ as) :
    (as.find? fun b => key b = key a) = some a := by
  obtain ⟨b, hb⟩ : ∃ b, (as.find? fun b => key b = key a) = some b :=
    Option.isSome_iff_exists.mp (List.find?_isSome.mpr ⟨a, ha, by simp⟩)
  have hkey : key b = key a := by simpa using List.find?_some hb
  rw [hb, List.inj_on_of_nodup_map h (List.mem_of_find?_eq_some hb) ha hkey]

/-- The entry with a key is found in any order of the entries. -/
theorem find?_eq_of_perm {key : α → Text} {as bs : List α} (hperm : as.Perm bs) (h : (as.map key).Nodup)
    (k : Text) : (as.find? fun a => key a = k) = bs.find? fun b => key b = k := by
  refine List.find?_eq_find?_of_perm hperm fun a ha b hb => ?_
  have hkey : key a = key b := (of_decide_eq_true ha.2).trans (of_decide_eq_true hb.2).symm
  exact List.inj_on_of_nodup_map h ha.1 hb.1 hkey

theorem get?_eq_of_perm {t u : Table α} (hperm : t.Perm u) (h : t.keys.Nodup) (k : Text) :
    t.get? k = u.get? k := by
  rw [get?, get?, find?_eq_of_perm hperm h]

theorem get?_eq_some_of_mem {t : Table α} (h : t.keys.Nodup) {e : Text × α} (he : e ∈ t) :
    t.get? e.1 = some e.2 := by
  rw [get?, find?_eq_some_of_mem h he]
  rfl

/-! ### Tables that a loop fills -/

variable {β : Type} {key : α → Text}

/-- **Every key stands once, at the place where it is first seen**, whatever is done with the entries. -/
theorem keys_foldl_alter (key : β → Text) (f : β → Option α → α) (items : List β) :
    keys (items.foldl (fun t b => alter (key b) (f b) t) []) = (items.map key).eraseDups := by
  induction items using List.reverseRecOn with
  | nil => rfl
  | append_singleton items b ih =>
    rw [List.foldl_append, List.foldl_cons, List.foldl_nil, keys_alter, ih, List.map_append,
      List.map_singleton, eraseDups_append_singleton]
    simp only [List.mem_eraseDups]

theorem firstSeen_keys_foldl_alter (key : β → Text) (f : β → Option α → α) (items : List β) :
    FirstSeen (items.map key) (keys (items.foldl (fun t b => alter (key b) (f b) t) [])) :=
  keys_foldl_alter key f items ▸ firstSeen_eraseDups _

/-- A table that has the first item of every key, each key at its first place. -/
structure ListsFirst (key : α → Text) (items : List α) (t : Table α) : Prop where
  keys : FirstSeen (items.map key) t.keys
  entry : ∀ k, t.get? k = items.find? fun a => key a = k

theorem listsFirst_firstByKey (key : α → Text) (items : List α) :
    ListsFirst key items (firstByKey key items) :=
  ⟨firstSeen_keys_foldl_alter key (fun a old => old.getD a) items, get?_firstByKey key items⟩

/-- A table that has the last entry of every key, each key at its first place. -/
structure ListsLast (entries : List (Text × α)) (t : Table α) : Prop where
  keys : FirstSeen (entries.map Prod.fst) t.keys
  entry : ∀ k, t.get? k = (entries.filter fun e => e.1 = k).getLast?.map Prod.snd

theorem listsLast_foldl_set (entries : List (Text × α)) :
    ListsLast entries (entries.foldl (fun t e => t.set e.1 e.2) []) := by
  refine ⟨firstSeen_keys_foldl_alter Prod.fst (fun e _ => e.2) entries, fun k => ?_⟩
  rw [get?_foldl_set]
  exact Option.or_none

/-! ### Groups -/

theorem firstSeen_groupByKey (key : α → Text) (items : List α) :
    FirstSeen (items.map key) (keys (groupByKey key items)) :=
  firstSeen_keys_foldl_alter key (fun a old => old.getD [] ++ [a]) items

/-- One item more is in one group more. -/
theorem flatMap_alter_perm (t : Table (List α)) (k : Text) (a : α) :
    ((alter k (fun old => old.getD [] ++ [a]) t).flatMap Prod.snd).Perm (t.flatMap Prod.snd ++ [a]) := by
  induction t with
  | nil => exact .refl _
  | cons g t ih =>
    obtain ⟨k', as⟩ := g
    rw [alter]
    split
    · simp only [List.flatMap_cons, Option.getD_some, List.append_assoc]
      exact List.perm_append_comm.append_left as
    · simp only [List.flatMap_cons, List.append_assoc]
      exact ih.append_left as

/-- **The groups hold every item, and none twice.** -/
theorem flatMap_groupByKey_perm (key : α → Text) (items : List α) :
    ((groupByKey key items).flatMap Prod.snd).Perm items := by
  induction items using List.reverseRecOn with
  | nil => exact .nil
  | append_singleton items a ih =>
    rw [groupByKey, List.foldl_append, List.foldl_cons, List.foldl_nil]
    exact (flatMap_alter_perm _ _ a).trans (ih.append_right [a])

/-- A group holds the items with its key. -/
theorem snd_of_mem_groupByKey {items : List α} {g : Text × List α} (hg : g ∈ groupByKey key items) :
    g.2 = items.filter fun a => key a = g.1 := by
  rw [← get?_groupByKey key items g.1, get?_eq_some_of_mem (firstSeen_groupByKey key items).nodup hg]
  rfl

/-- **Every item has one group.** -/
theorem existsUnique_group (key : α → Text) {items : List α} {a : α} (ha : a ∈ items) :
    ∃! g, g ∈ groupByKey key items ∧ a ∈ g.2 := by
  obtain ⟨g, hg, hag⟩ := List.mem_flatMap.mp ((flatMap_groupByKey_perm key items).mem_iff.mpr ha)
  have hkey : ∀ h ∈ groupByKey key items, a ∈ h.2 → h.1 = key a := by
    intro h hh hah
    rw [snd_of_mem_groupByKey hh] at hah
    exact (of_decide_eq_true (List.mem_filter.mp hah).2).symm
  refine ⟨g, ⟨hg, hag⟩, fun h ⟨hh, hah⟩ => ?_⟩
  exact List.inj_on_of_nodup_map (firstSeen_groupByKey key items).nodup hh hg
    ((hkey h hh hah).trans (hkey g hg hag).symm)

/-- **The sizes of the groups add up.** -/
theorem sum_length_groupByKey (key : α → Text) (items : List α) :
    ((keys (groupByKey key items)).map fun k => (items.filter fun a => key a = k).length).sum =
      items.length := by
  calc ((keys (groupByKey key items)).map fun k => (items.filter fun a => key a = k).length).sum
      = ((groupByKey key items).map fun g => g.2.length).sum := by
        rw [keys, List.map_map]
        congr 1
        exact List.map_congr_left fun g hg => congrArg List.length (snd_of_mem_groupByKey hg).symm
    _ = ((groupByKey key items).flatMap Prod.snd).length := (List.length_flatMap ..).symm
    _ = items.length := (flatMap_groupByKey_perm key items).length_eq

end PromptTemplate.Table
