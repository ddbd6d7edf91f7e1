import PromptTemplate.File.Atomic
import PromptTemplate.Proofs.File.Directories

/-!
# Names for temporary files

Of the names for temporary files beside a target the file system takes all or none, whatever is drawn
(`hasRoom_of_takes`), since they are of one length. So a temporary file is opened under the first drawn name that is
free, or it is not opened and the tree stays as it is (`openTemporary_result`).
-/

namespace PromptTemplate

namespace File

open PromptTemplate.Path

variable {home target : Path} {d d' : Draw} {t : FileTree}

/-- The file system takes the name that is drawn for a temporary file. -/
def Takes (home target : Path) (d : Draw) : Prop :=
  ((temporaryPath target d).absolute home).fault? = none ∧ isLongName (temporaryName target d) = false

instance (home target : Path) (d : Draw) : Decidable (Takes home target d) :=
  inferInstanceAs (Decidable (_ ∧ _))

/-- Beside the target there is room for a temporary name, whatever is drawn. -/
def HasRoom (home target : Path) : Prop := ∀ d, Takes home target d

theorem length_bytesOf_text (d : Draw) : (bytesOf d.text).length = 8 := by
  have hone : ∀ c ∈ Draw.characters, (bytesOf [c]).length = 1 := by decide +kernel
  have hlength : ∀ t : Text, (∀ c ∈ t, c ∈ Draw.characters) → (bytesOf t).length = t.length := by
    intro t
    induction t with
    | nil => exact fun _ => rfl
    | cons c t ih =>
      intro h
      rw [List.forall_mem_cons] at h
      rw [← List.singleton_append, bytesOf_append, List.length_append, hone c h.1, ih h.2, List.length_append]
      rfl
  rw [hlength d.text d.mem_text, d.length_text]

/-- Whether a text is a path does not depend on what is drawn for a part of it. -/
theorem textFault?_draw (s t : Text) (d d' : Draw) (h : textFault? (s ++ (d.text ++ t)) = none) :
    textFault? (s ++ (d'.text ++ t)) = none := by
  have hdrawn : ∀ c ∈ Draw.characters, IsTaken c := by decide +kernel
  rw [textFault?_eq_none_iff] at h ⊢
  simp only [bytesOf_append, List.length_append, length_bytesOf_text, List.mem_append] at h ⊢
  refine ⟨fun c hc => ?_, h.2⟩
  rcases hc with hc | hc | hc
  · exact h.1 c (.inl hc)
  · exact hdrawn c (d'.mem_text c hc)
  · exact h.1 c (.inr (.inr hc))

theorem temporaryName_ne_above (target : Path) (d : Draw) : temporaryName target d ≠ above := by
  intro h
  have hlength := congrArg List.length h
  simp [temporaryName, above, Text.ofString, d.length_text] at hlength

/-- **Names for temporary files are taken alike**, whatever is drawn. -/
theorem hasRoom_of_takes (h : Takes home target d) : HasRoom home target := by
  intro d'
  obtain ⟨p, hp⟩ := target.exists_absolute_withName home
  obtain ⟨before, hbefore⟩ := p.exists_toText_withName
  have htext : ∀ d, ((temporaryPath target d).absolute home).toText =
      (before ++ (target.name ++ [.char '.'])) ++ (d.text ++ Text.ofString ".tmp") := by
    intro d
    rw [temporaryPath, hp (temporaryName_ne_above target d), hbefore, temporaryName]
    simp only [List.append_assoc]
  obtain ⟨hpath, hname⟩ := h
  refine ⟨?_, ?_⟩
  · rw [fault?, htext] at hpath ⊢
    exact textFault?_draw _ _ d d' hpath
  · simpa only [isLongName, temporaryName, bytesOf_append, List.length_append, length_bytesOf_text] using hname

/-! ### Beside a target -/

theorem parent_temporaryPath (target : Path) (d : Draw) : (temporaryPath target d).parent = target.parent :=
  parent_withName ..

theorem ancestors_temporaryPath (target : Path) (d : Draw) :
    (temporaryPath target d).ancestors = target.parent.way :=
  ancestors_withName ..

section Way

variable (home : Path) (hway : ∀ a ∈ target.parent.way, t.entry? a = some .directory)
  (hnames : ∀ n ∈ target.parent.names, isLongName n = false)

include hnames

/-- A target has no longer names than the files beside it. -/
theorem names_of_takes (htakes : Takes home target d) : ∀ n ∈ target.names, isLongName n = false := by
  by_cases hnil : target.names = []
  · simp [hnil]
  · have hlast : isLongName target.name = false := by
      have hlong := htakes.2
      simp only [isLongName, temporaryName, bytesOf_append, List.length_append, decide_eq_false_iff_not] at hlong ⊢
      omega
    rw [names_eq hnil, List.forall_mem_append, List.forall_mem_singleton]
    exact ⟨hnames, hlast⟩

include hway

/-- Once the directories are made, a drawn name is taken where its path can be looked up. -/
theorem takes_iff : Takes home target d ↔
    ((temporaryPath target d).absolute home).fault? = none ∧ t.obstacle? (temporaryPath target d) = none := by
  have hlast : (temporaryPath target d).names = target.parent.names ++ [temporaryName target d] := rfl
  rw [Takes, FileTree.obstacle?_eq_none_iff, ancestors_temporaryPath, and_iff_right hway, hlast,
    List.forall_mem_append, and_iff_right hnames, List.forall_mem_singleton]

/-- A name that is not taken ends the search. -/
theorem exists_create_eq_error (h : ¬ Takes home target d) :
    ∃ f, FileAction.create ((temporaryPath target d).absolute home) (temporaryPath target d) (.file []) t =
        (.error f, t) ∧ ∀ q, f ≠ .system .occupied q := by
  cases htext : ((temporaryPath target d).absolute home).fault? with
  | some f => exact ⟨_, FileAction.create_eq_error_of_fault htext _, by cases f <;> nofun⟩
  | none =>
    cases hobstacle : t.obstacle? (temporaryPath target d) with
    | none => exact absurd ((takes_iff home hway hnames).mpr ⟨htext, hobstacle⟩) h
    | some cause =>
      refine ⟨_, FileAction.create_eq_error_of_obstacle htext hobstacle _, ?_⟩
      rcases FileTree.obstacle?_cases hobstacle with ⟨rfl, -⟩ | ⟨rfl | rfl, -⟩ <;> nofun

end Way

/-! ### Opening a temporary file -/

section Open

variable {f : Fault}

theorem openTemporary_of_ok (ds : List Draw)
    (h : FileAction.create ((temporaryPath target d).absolute home) (temporaryPath target d) (.file []) t =
      (.ok (), t.put (temporaryPath target d) (.file []))) :
    openTemporary home target (d :: ds) t =
      (.ok (temporaryPath target d), t.put (temporaryPath target d) (.file [])) := by
  simp only [openTemporary, h]

theorem openTemporary_of_occupied {q : Path} (ds : List Draw)
    (h : FileAction.create ((temporaryPath target d).absolute home) (temporaryPath target d) (.file []) t =
      (.error (.system .occupied q), t)) :
    openTemporary home target (d :: ds) t = openTemporary home target ds t := by
  simp only [openTemporary, h]

theorem openTemporary_of_error (ds : List Draw)
    (h : FileAction.create ((temporaryPath target d).absolute home) (temporaryPath target d) (.file []) t =
      (.error f, t)) (hother : ∀ q, f ≠ .system .occupied q) :
    openTemporary home target (d :: ds) t = (.error f, t) := by
  simp only [openTemporary, h]

end Open

/-- What comes of opening a temporary file: a free name is found, or the tree stays as it is. -/
inductive Opened (home target : Path) (draws : List Draw) (t : FileTree) : Except Fault Path × FileTree → Prop
  | opened {d : Draw} (hd : d ∈ draws) (hroom : HasRoom home target)
      (hfree : t.entry? (temporaryPath target d) = none) :
      Opened home target draws t (.ok (temporaryPath target d), t.put (temporaryPath target d) (.file []))
  | refused {f : Fault} (hnone : HasRoom home target → ∀ d ∈ draws, t.entry? (temporaryPath target d) ≠ none) :
      Opened home target draws t (.error f, t)

/-- **When a temporary file is opened**, once the directories are made. -/
theorem openTemporary_result (home : Path) (hway : ∀ a ∈ target.parent.way, t.entry? a = some .directory)
    (hnames : ∀ n ∈ target.parent.names, isLongName n = false) (draws : List Draw) :
    Opened home target draws t (openTemporary home target draws t) := by
  induction draws with
  | nil => exact .refused fun _ => nofun
  | cons d ds ih =>
    by_cases htakes : Takes home target d
    · obtain ⟨htext, hlooked⟩ := (takes_iff home hway hnames).mp htakes
      cases hentry : t.entry? (temporaryPath target d) with
      | none =>
        rw [openTemporary_of_ok ds (FileAction.create_eq_ok htext hlooked hentry)]
        exact .opened List.mem_cons_self (hasRoom_of_takes htakes) hentry
      | some e =>
        rw [openTemporary_of_occupied ds (FileAction.create_eq_error_of_entry htext hlooked hentry)]
        generalize openTemporary home target ds t = r at ih
        cases ih with
        | opened hd hroom hfree => exact .opened (List.mem_cons_of_mem _ hd) hroom hfree
        | refused hnone =>
          refine .refused fun hroom => List.forall_mem_cons.mpr ⟨?_, hnone hroom⟩
          rw [hentry]
          nofun
    · obtain ⟨f, hcreate, hother⟩ := exists_create_eq_error (t := t) home hway hnames htakes
      rw [openTemporary_of_error ds hcreate hother]
      exact .refused fun hroom => absurd (hroom d) htakes

end File

end PromptTemplate
