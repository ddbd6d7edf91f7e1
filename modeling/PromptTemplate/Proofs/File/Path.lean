import Mathlib.Data.List.Induction
import PromptTemplate.File.Path
import PromptTemplate.Proofs.Text.Join

/-!
# Paths that the file system takes

The file system takes a path whose text has bytes, no zero among them, and that is not too long, if its names are
not too long either (`IsFit`). It takes the paths on the way then, too (`IsFit.parent`), since the text of a path
begins with theirs, and a path with the beginning of the last name (`IsFit.of_withName_append`).
-/

namespace PromptTemplate

namespace Path

variable {p q : Path} {s t : Text}

/-! ### The way to a path -/

theorem names_eq (h : p.names ≠ []) : p.names = p.parent.names ++ [p.name] := by
  rw [parent, name, List.getLast?_eq_some_getLast h, Option.getD_some, List.dropLast_append_getLast]

/-- The paths on the way to a path, and the path. -/
def way (p : Path) : List Path := p.ancestors ++ [p]

/-- The paths on the way to a path are those on the way to its parent, and the parent. -/
theorem ancestors_eq_way_parent (h : p.names ≠ []) : p.ancestors = p.parent.way := by
  obtain ⟨ns, n, hn⟩ := (List.eq_nil_or_concat p.names).resolve_left h
  rw [List.concat_eq_append] at hn
  simp only [way, ancestors, parent, hn, List.length_append, List.length_singleton, List.range_succ,
    List.map_append, List.map_singleton, List.dropLast_concat, List.take_left]
  congr 1
  refine List.map_congr_left fun k hk => ?_
  rw [List.take_append_of_le_length (Nat.le_of_lt (List.mem_range.mp hk))]

theorem way_eq_append (h : p.names ≠ []) : p.way = p.parent.way ++ [p] := by
  rw [way, ancestors_eq_way_parent h]

theorem ancestors_eq_nil (h : p.names = []) : p.ancestors = [] := by
  simp [ancestors, h]

theorem parent_withName (p : Path) (name : Text) : (p.withName name).parent = p.parent := by
  simp [withName, parent]

theorem ancestors_withName (p : Path) (name : Text) : (p.withName name).ancestors = p.parent.way := by
  rw [ancestors_eq_way_parent (by simp [withName]), parent_withName]

/-- What holds of every name of a path holds of the last names on the way to it, and of its own. -/
theorem forall_mem_names_iff {P : Text → Prop} (hnil : P []) :
    (∀ n ∈ p.names, P n) ↔ (∀ a ∈ p.ancestors, P a.name) ∧ P p.name := by
  obtain ⟨root, names⟩ := p
  induction names using List.reverseRecOn with
  | nil => simpa [ancestors, name] using hnil
  | append_singleton ns n ih =>
    have hparent : parent ⟨root, ns ++ [n]⟩ = ⟨root, ns⟩ := by simp [parent]
    have hname : name ⟨root, ns ++ [n]⟩ = n := by simp [name]
    rw [ancestors_eq_way_parent (by simp), hparent, way, hname]
    simp only [List.forall_mem_append, List.forall_mem_singleton, ih]

/-- The way to a path is that to any path beside it. -/
theorem mem_ancestors_of_parent_eq {a : Path} (h : p.parent = q.parent) (hp : p.names ≠ [])
    (ha : a ∈ q.ancestors) : a ∈ p.ancestors := by
  by_cases hq : q.names = []
  · rw [ancestors_eq_nil hq] at ha
    cases ha
  · rwa [ancestors_eq_way_parent hp, h, ← ancestors_eq_way_parent hq]

/-! ### Texts that are paths -/

/-- A code point that may stand in a path. -/
def IsTaken (c : CodePoint) : Prop :=
  (!c.isSurrogate || (strayByte? c).isSome) = true ∧ c ≠ .char '\x00'

instance : DecidablePred IsTaken := fun c => by unfold IsTaken; infer_instance

theorem encodeFault?_eq_none_iff :
    encodeFault? t = none ↔ ∀ c ∈ t, (!c.isSurrogate || (strayByte? c).isSome) = true := by
  rw [← List.dropWhile_eq_nil_iff, encodeFault?]
  split
  · rename_i hnil
    exact iff_of_true rfl hnil
  · rename_i hcons
    rw [hcons]
    exact iff_of_false nofun nofun

theorem textFault?_eq_none_iff :
    textFault? t = none ↔ (∀ c ∈ t, IsTaken c) ∧ (bytesOf t).length ≤ maxBytes := by
  unfold textFault?
  split
  · rename_i f hf
    refine iff_of_false nofun fun h => ?_
    rw [encodeFault?_eq_none_iff.mpr fun c hc => (h.1 c hc).1] at hf
    cases hf
  · rename_i hnone
    rw [encodeFault?_eq_none_iff] at hnone
    split_ifs with hnull hlong
    · refine iff_of_false nofun fun h => (h.1 _ ?_).2 rfl
      simpa using hnull
    · exact iff_of_false nofun fun h => absurd h.2 (Nat.not_le.mpr hlong)
    · refine iff_of_true rfl ⟨fun c hc => ⟨hnone c hc, ?_⟩, Nat.not_lt.mp hlong⟩
      rintro rfl
      exact hnull (by simpa using hc)

theorem bytesOf_append (s t : Text) : bytesOf (s ++ t) = bytesOf s ++ bytesOf t := List.flatMap_append

/-- What begins a path is one, or the text is no longer a path. -/
theorem textFault?_of_append (h : textFault? (s ++ t) = none) : textFault? s = none := by
  rw [textFault?_eq_none_iff, bytesOf_append, List.length_append] at h
  exact textFault?_eq_none_iff.mpr ⟨fun c hc => h.1 c (List.mem_append_left _ hc),
    Nat.le_trans (Nat.le_add_right _ _) h.2⟩

/-! ### The text of a path -/

theorem toText_of_names_ne_nil (h : p.names ≠ []) : p.toText = p.root ++ Text.joinWith "/" p.names := by
  rw [toText, if_neg (by simp [h])]

/-- The text of a path is given by its last name and by a text that does not depend on that. -/
theorem exists_toText_withName (p : Path) : ∃ before, ∀ name, (p.withName name).toText = before ++ name := by
  have htext : ∀ name, (p.withName name).toText = p.root ++ Text.joinWith "/" (p.names.dropLast ++ [name]) :=
    fun name => toText_of_names_ne_nil (by simp [withName])
  by_cases hnil : p.names.dropLast = []
  · refine ⟨p.root, fun name => ?_⟩
    rw [htext, hnil]
    rfl
  · refine ⟨p.root ++ (Text.joinWith "/" p.names.dropLast ++ Text.ofString "/"), fun name => ?_⟩
    rw [htext, Text.joinWith_append _ hnil (List.cons_ne_nil _ _), Text.joinWith]
    simp only [List.append_assoc]

theorem withName_name (h : p.names ≠ []) : p.withName p.name = p := by
  obtain ⟨root, names⟩ := p
  exact congrArg (Path.mk root) (names_eq h).symm

/-- The text of a parent begins the text of the path, unless it is a dot. -/
theorem toText_parent (p : Path) : p.parent.toText = "." ∨ ∃ rest, p.toText = p.parent.toText ++ rest := by
  obtain ⟨root, names⟩ := p
  obtain rfl | ⟨ns, n, rfl⟩ := List.eq_nil_or_concat names
  · exact .inr ⟨[], (List.append_nil _).symm⟩
  · rw [List.concat_eq_append]
    have htext : toText ⟨root, ns ++ [n]⟩ = root ++ Text.joinWith "/" (ns ++ [n]) :=
      toText_of_names_ne_nil (List.concat_ne_nil n ns)
    have hparent : parent ⟨root, ns ++ [n]⟩ = ⟨root, ns⟩ := by simp [parent]
    rw [hparent, htext]
    by_cases hns : ns = []
    · subst hns
      by_cases hroot : root = []
      · subst hroot
        exact .inl rfl
      · exact .inr ⟨n, by simp [toText, hroot, Text.joinWith]⟩
    · refine .inr ⟨Text.ofString "/" ++ n, ?_⟩
      have hstart : toText ⟨root, ns⟩ = root ++ Text.joinWith "/" ns := toText_of_names_ne_nil hns
      rw [hstart, Text.joinWith_append _ hns (List.cons_ne_nil _ _), Text.joinWith]
      simp only [List.append_assoc]

/-! ### Paths that are taken -/

/-- The file system takes the path: its text is one, and no name is too long. -/
structure IsFit (p : Path) : Prop where
  text : p.fault? = none
  names : ∀ n ∈ p.names, isLongName n = false

instance (p : Path) : Decidable p.IsFit :=
  decidable_of_iff (p.fault? = none ∧ ∀ n ∈ p.names, isLongName n = false)
    ⟨fun ⟨text, names⟩ => ⟨text, names⟩, fun ⟨text, names⟩ => ⟨text, names⟩⟩

theorem IsFit.parent (h : p.IsFit) : p.parent.IsFit := by
  refine ⟨?_, fun n hn => h.names n (List.dropLast_subset _ hn)⟩
  rcases p.toText_parent with hdot | ⟨rest, htext⟩
  · rw [fault?, hdot]
    decide +kernel
  · have htaken := h.text
    rw [fault?, htext] at htaken
    exact textFault?_of_append htaken

/-- A longer last name makes a path no more fit. -/
theorem IsFit.of_withName_append (hnames : p.names ≠ []) (h : (p.withName (p.name ++ s)).IsFit) : p.IsFit := by
  obtain ⟨before, hbefore⟩ := p.exists_toText_withName
  have htext : p.toText = before ++ p.name := by rw [← hbefore, withName_name hnames]
  refine ⟨?_, fun n hn => ?_⟩
  · have htaken := h.text
    rw [fault?, hbefore, ← List.append_assoc, ← htext] at htaken
    exact textFault?_of_append htaken
  · rw [names_eq hnames, List.mem_append, List.mem_singleton] at hn
    rcases hn with hn | rfl
    · exact h.names n (List.mem_append_left _ hn)
    · have hshort := h.names (p.name ++ s) (List.mem_append_right _ (List.mem_singleton.mpr rfl))
      simp only [isLongName, bytesOf_append, List.length_append, decide_eq_false_iff_not] at hshort ⊢
      omega

/-! ### Places -/

theorem isStart_congr (h : p.normal = q.normal) : p.isStart = q.isStart := by
  rw [isStart, h, isStart]

theorem names_ne_nil_of_isStart_eq_false (h : p.isStart = false) : p.names ≠ [] := by
  rintro hnil
  simp [isStart, normal, straight, hnil] at h

theorem step_eq_cons (root : Text) (way : List Text) {name : Text} (h : name ≠ above) :
    step root way name = name :: way := by
  cases way with
  | nil => rw [step, if_neg fun hname => h hname.1]
  | cons last rest => rw [step, if_neg fun hname => h hname.1]

/-- A name other than the two dots is one step down. -/
theorem straight_concat (root : Text) (ns : List Text) {name : Text} (h : name ≠ above) :
    straight ⟨root, ns ++ [name]⟩ = withName ⟨root, (straight ⟨root, ns⟩).names ++ [[]]⟩ name := by
  simp [straight, withName, step_eq_cons _ _ h]

/-- From a root, too, a path ends with its last name. -/
theorem exists_absolute_withName (p home : Path) :
    ∃ q : Path, ∀ {name}, name ≠ above → (p.withName name).absolute home = q.withName name := by
  by_cases hroot : p.root = []
  · have habsolute : ∀ name, (p.withName name).absolute home =
        straight ⟨home.root, home.names ++ p.names.dropLast ++ [name]⟩ := fun name => by
      simp [absolute, withName, hroot]
    exact ⟨_, fun h => (habsolute _).trans (straight_concat home.root _ h)⟩
  · have habsolute : ∀ name, (p.withName name).absolute home = straight ⟨p.root, p.names.dropLast ++ [name]⟩ :=
      fun name => by simp [absolute, withName, hroot]
    exact ⟨_, fun h => (habsolute _).trans (straight_concat p.root _ h)⟩

end Path

end PromptTemplate
