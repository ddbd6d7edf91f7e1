import PromptTemplate.Proofs.Table
import PromptTemplate.Schema

/-!
# Records and the names of their members

What is read from a record depends on the look-ups of its members only (`record?_congr`), so its members may
stand in any order. Where each member stands under just one of its names, the values are read in the order of
the members (`record?_of_keys`). A member more is read behind the others (`record?_concat`).
-/

namespace PromptTemplate.Schema

variable {names : List (List Text)} {ms ms' : List (Text × Data)}

theorem presentName?_congr (h : ∀ key, Table.get? ms key = Table.get? ms' key) :
    presentName? ms = presentName? ms' := by
  funext names
  simp only [presentName?, h]

/-- Two objects with the same look-ups are one record. -/
theorem record?_congr (h : ∀ key, Table.get? ms key = Table.get? ms' key) (names : List (List Text)) :
    record? names (.map ms) = record? names (.map ms') := by
  have hmem : ∀ key, key ∈ Table.keys ms ↔ key ∈ Table.keys ms' := by
    intro key
    rw [← Table.isSome_get?_iff, ← Table.isSome_get?_iff, h]
  have hall : ∀ p : Text → Bool, (Table.keys ms).all p = (Table.keys ms').all p := by
    intro p
    rw [Bool.eq_iff_iff]
    simp only [List.all_eq_true, hmem]
  have hget : Table.get? ms = Table.get? ms' := funext h
  simp only [record?, presentName?_congr h, hall, hget]

/-- The name that counts is the first of those that the object has. -/
theorem presentName?_eq_head? (ms : List (Text × Data)) (ns : List Text) :
    presentName? ms ns = (ns.filter fun n => n ∈ Table.keys ms).head? := by
  have hpresent : (fun n => (Table.get? ms n).isSome) = fun n => decide (n ∈ Table.keys ms) := by
    funext n
    rw [Bool.eq_iff_iff, Table.isSome_get?_iff, decide_eq_true_eq]
  rw [presentName?, hpresent, List.head?_filter]

/-- **An object that has one name of each member** is read in the order of the members. -/
theorem record?_of_keys (hkeys : (Table.keys ms).Nodup)
    (hnames : (names.map fun ns => ns.filter fun n => n ∈ Table.keys ms) =
      (Table.keys ms).map fun key => [key]) :
    record? names (.map ms) = some (ms.map fun m => some m.2) := by
  have hused : names.map (presentName? ms) = (Table.keys ms).map some :=
    calc names.map (presentName? ms)
        = (names.map fun ns => ns.filter fun n => n ∈ Table.keys ms).map List.head? := by
          rw [List.map_map]
          exact List.map_congr_left fun ns _ => presentName?_eq_head? ms ns
      _ = (Table.keys ms).map some := by
          rw [hnames, List.map_map]
          rfl
  have hall : ((Table.keys ms).all fun key => ((Table.keys ms).map some).contains (some key)) = true := by
    simp
  have hget : ((Table.keys ms).map some).map (fun name => name.bind (Table.get? ms)) =
      ms.map fun m => some m.2 := by
    rw [Table.keys, List.map_map, List.map_map]
    exact List.map_congr_left fun m hm => Table.get?_eq_some_of_mem hkeys hm
  simp only [record?, hused, hall, if_true, hget]

theorem length_of_record? {d : Data} {values : List (Option Data)} (h : record? names d = some values) :
    values.length = names.length := by
  unfold record? at h
  split at h
  · dsimp only at h
    split_ifs at h
    cases h
    simp
  · cases h

/-- **A member more**, with a name of its own, is read behind the others. -/
theorem record?_concat {n : Text} {o : Option Data} (hnames : ∀ ns ∈ names, n ∉ ns)
    (hfree : Table.get? ms n = none)
    (hget : ∀ key, Table.get? ms' key = if key = n then o else Table.get? ms key) :
    record? (names ++ [[n]]) (.map ms') = (record? names (.map ms)).map (· ++ [o]) := by
  have hkeys : ∀ key, key ∈ Table.keys ms' ↔ (key = n ∧ o.isSome) ∨ key ∈ Table.keys ms := by
    intro key
    have hnone : n ∉ Table.keys ms := by simp [← Table.isSome_get?_iff, hfree]
    rw [← Table.isSome_get?_iff, ← Table.isSome_get?_iff, hget]
    by_cases hkey : key = n
    · simp [hkey, hfree]
    · simp [hkey]
  have hpresent : ∀ ns ∈ names, presentName? ms' ns = presentName? ms ns := by
    intro ns hns
    refine List.find?_congr fun key hkey => ?_
    have hne : key ≠ n := fun h => hnames ns hns (h ▸ hkey)
    rw [hget, if_neg hne]
  have hused : (names ++ [[n]]).map (presentName? ms') =
      names.map (presentName? ms) ++ [o.map fun _ => n] := by
    rw [List.map_append, List.map_congr_left hpresent]
    cases o <;> simp [presentName?, hget]
  have hall : ((Table.keys ms').all fun key =>
        (names.map (presentName? ms) ++ [o.map fun _ => n]).contains (some key)) =
      (Table.keys ms).all fun key => (names.map (presentName? ms)).contains (some key) := by
    rw [Bool.eq_iff_iff]
    simp only [List.all_eq_true, List.contains_iff_mem, List.mem_append, List.mem_singleton]
    constructor
    · intro h key hkey
      have hne : key ≠ n := by
        rintro rfl
        simp [← Table.isSome_get?_iff, hfree] at hkey
      refine (h key ((hkeys key).mpr (.inr hkey))).resolve_right fun heq => ?_
      obtain ⟨-, -, hn⟩ := Option.map_eq_some_iff.mp heq.symm
      exact hne hn.symm
    · intro h key hkey
      rcases (hkeys key).mp hkey with ⟨rfl, ho⟩ | hkey
      · obtain ⟨d, rfl⟩ := Option.isSome_iff_exists.mp ho
        exact .inr rfl
      · exact .inl (h key hkey)
  have hvalues : (names.map (presentName? ms) ++ [o.map fun _ => n]).map
        (fun name => name.bind (Table.get? ms')) =
      (names.map (presentName? ms)).map (fun name => name.bind (Table.get? ms)) ++ [o] := by
    rw [List.map_append, List.map_map, List.map_map]
    refine congrArg₂ (· ++ ·) (List.map_congr_left fun ns hns => ?_) ?_
    · refine Option.bind_congr fun key hkey => ?_
      have hne : key ≠ n := fun h => hnames ns hns (h ▸ List.mem_of_find?_eq_some hkey)
      rw [hget, if_neg hne]
    · cases o <;> simp [hget]
  simp only [record?, hused, hall, hvalues]
  split <;> rfl

end PromptTemplate.Schema
