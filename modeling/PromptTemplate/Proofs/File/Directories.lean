import PromptTemplate.Proofs.File.Tree

/-!
# Making directories

A path admits directories if the file system takes it and no file stands on the way to it (`FileTree.Admits`). Just
then they are made: each place on the way becomes a directory (`FileTree.WayMade`), and nothing else changes
(`makeDirectories_result`). Where they cannot all be made, some of them may be, but files stay as they are
(`file?_makeDirectories`).
-/

namespace PromptTemplate

variable {t t' t₁ : FileTree} {p q : Path}

namespace FileTree

/-- The directories at a path and on the way to it are there or can be made. -/
structure Admits (t : FileTree) (p : Path) : Prop where
  fit : p.IsFit
  way : ∀ a ∈ p.way, t.file? a = none

theorem Admits.congr (h : t.Admits p) (hfiles : ∀ q, t'.file? q = t.file? q) : t'.Admits p :=
  ⟨h.fit, fun a ha => (hfiles a).trans (h.way a ha)⟩

theorem Admits.parent (h : t.Admits p) (hnames : p.names ≠ []) : t.Admits p.parent :=
  ⟨h.fit.parent, fun a ha => h.way a (List.mem_append_left _ (Path.ancestors_eq_way_parent hnames ▸ ha))⟩

/-! ### What bars a way -/

/-- What bars a place on the way: that it is missing, or a long name or a file. -/
theorem bar?_cases {a : Path} {cause : FileCause} (h : t.bar? a = some cause) :
    cause = .missing ∧ t.entry? a = none ∨ cause = .tooLong ∧ Path.isLongName a.name = true ∨
      cause = .notDirectory ∧ t.file? a ≠ none := by
  unfold bar? at h
  split_ifs at h with hlong
  · exact .inr (.inl ⟨(Option.some.inj h).symm, hlong⟩)
  · cases hentry : t.entry? a with
    | none =>
      rw [hentry] at h
      exact .inl ⟨(Option.some.inj h).symm, rfl⟩
    | some e =>
      rw [hentry] at h
      cases e with
      | directory => cases h
      | file bytes => exact .inr (.inr ⟨(Option.some.inj h).symm, by simp [file?, hentry]⟩)

/-- A path is not looked up: something on the way is missing, or the path admits no directories. -/
theorem obstacle?_cases {cause : FileCause} (h : t.obstacle? p = some cause) :
    (cause = .missing ∧ ∃ a ∈ p.ancestors, t.entry? a = none) ∨
      (cause = .tooLong ∨ cause = .notDirectory) ∧ ¬ t.Admits p := by
  have hshort : t.Admits p →
      (∀ a ∈ p.ancestors, Path.isLongName a.name = false) ∧ Path.isLongName p.name = false :=
    fun hadmits => (Path.forall_mem_names_iff (by decide)).mp hadmits.fit.names
  rw [obstacle?, Option.or_eq_some_iff] at h
  rcases h with hbar | ⟨-, hname⟩
  · obtain ⟨a, ha, hbar⟩ := List.exists_of_findSome?_eq_some hbar
    rcases bar?_cases hbar with ⟨hcause, hmissing⟩ | ⟨hcause, hlong⟩ | ⟨hcause, hfile⟩
    · exact .inl ⟨hcause, a, ha, hmissing⟩
    · refine .inr ⟨.inl hcause, fun hadmits => ?_⟩
      rw [(hshort hadmits).1 a ha] at hlong
      cases hlong
    · exact .inr ⟨.inr hcause, fun hadmits => hfile (hadmits.way a (List.mem_append_left _ ha))⟩
  · split_ifs at hname with hlong
    refine .inr ⟨.inl (Option.some.inj hname).symm, fun hadmits => ?_⟩
    rw [(hshort hadmits).2] at hlong
    cases hlong

/-! ### The tree with a way made -/

/-- The places of a path and on the way to it are directories, and nothing else has changed. -/
def WayMade (t : FileTree) (p : Path) (t' : FileTree) : Prop :=
  ∀ q : Path, t'.entry? q = if q.normal ∈ p.way.map Path.normal then some .directory else t.entry? q

namespace WayMade

variable (h : t.WayMade p t')

include h

theorem entry?_of_mem {a : Path} (ha : a ∈ p.way) : t'.entry? a = some .directory := by
  rw [h, if_pos (List.mem_map_of_mem ha)]

theorem entry?_of_notMem (hq : q.normal ∉ p.way.map Path.normal) : t'.entry? q = t.entry? q := by
  rw [h, if_neg hq]

/-- The directories are those that were there and those on the way. -/
theorem entry?_eq_directory_iff :
    t'.entry? q = some .directory ↔ t.entry? q = some .directory ∨ q.normal ∈ p.way.map Path.normal := by
  rw [h]
  split_ifs with hq <;> simp [hq]

theorem entry?_eq_none_iff :
    t'.entry? q = none ↔ t.entry? q = none ∧ q.normal ∉ p.way.map Path.normal := by
  rw [h]
  split_ifs with hq <;> simp [hq]

/-- Directories leave every file as it is. -/
theorem file?_eq (hadmits : t.Admits p) (q : Path) : t'.file? q = t.file? q := by
  by_cases hq : q.normal ∈ p.way.map Path.normal
  · obtain ⟨a, ha, hn⟩ := List.mem_map.mp hq
    have hnone : t.file? q = none := by
      rw [file?, entry?_congr hn.symm]
      exact hadmits.way a ha
    rw [hnone, file?, h, if_pos hq]
  · exact file?_eq_of_entry?_eq (h.entry?_of_notMem hq)

end WayMade

/-- A directory at a path, once the way to the parent is made. -/
theorem WayMade.of_parent (hnames : p.names ≠ []) (hparent : t.WayMade p.parent t₁)
    (hlast : ∀ q, t'.entry? q = if q.normal = p.normal then some .directory else t₁.entry? q) :
    t.WayMade p t' := by
  intro q
  rw [hlast, hparent, Path.way_eq_append hnames]
  simp only [List.map_append, List.map_singleton, List.mem_append, List.mem_singleton]
  by_cases hq : q.normal = p.normal <;> simp [hq]

/-- Where the way is there, only the last place is new. -/
theorem WayMade.of_way (hway : ∀ a ∈ p.ancestors, t.entry? a = some .directory)
    (hlast : ∀ q, t'.entry? q = if q.normal = p.normal then some .directory else t.entry? q) :
    t.WayMade p t' := by
  intro q
  rw [hlast, Path.way]
  simp only [List.map_append, List.map_singleton, List.mem_append, List.mem_singleton]
  by_cases hq : q.normal = p.normal
  · simp [hq]
  · by_cases hmem : q.normal ∈ p.ancestors.map Path.normal
    · obtain ⟨a, ha, hn⟩ := List.mem_map.mp hmem
      rw [if_neg hq, if_pos (.inl hmem), entry?_congr hn.symm, hway a ha]
    · simp [hq, hmem]

end FileTree

namespace FileAction

/-! ### One directory -/

/-- What comes of making one directory. The tree stays as it is unless the directory is new. -/
inductive Ensured (t : FileTree) (p : Path) : Except Fault Unit × FileTree → Prop
  | made {t' : FileTree} (hadmits : t.Admits p) (hway : ∀ a ∈ p.ancestors, t.entry? a = some .directory)
      (hlast : ∀ q, t'.entry? q = if q.normal = p.normal then some .directory else t.entry? q) :
      Ensured t p (.ok (), t')
  | missing {a : Path} (ha : a ∈ p.ancestors) (hmissing : t.entry? a = none) :
      Ensured t p (.error (.system .missing p), t)
  | refused {f : Fault} (hadmits : ¬ t.Admits p) (hother : ∀ q, f ≠ .system .missing q) :
      Ensured t p (.error f, t)

/-- With the way there, a directory is made at a free place and found at that of a directory. -/
theorem ensureDirectory_result_of_way (htext : p.fault? = none) (hway : t.obstacle? p = none) :
    Ensured t p (ensureDirectory p t) := by
  obtain ⟨hdirectories, hnames⟩ := FileTree.obstacle?_eq_none_iff.mp hway
  have hadmits : t.file? p = none → t.Admits p := by
    refine fun hfile => ⟨⟨htext, hnames⟩, fun a ha => ?_⟩
    rcases List.mem_append.mp ha with ha | ha
    · exact FileTree.file?_eq_none_of_directory (hdirectories a ha)
    · rwa [List.mem_singleton.mp ha]
  cases hentry : t.entry? p with
  | none =>
    rw [ensureDirectory, create_eq_ok htext hway hentry]
    exact .made (hadmits (FileTree.file?_eq_none_of_free hentry)) hdirectories fun q =>
      FileTree.entry?_put (FileTree.isStart_eq_false_of_free hentry) t q .directory
  | some e =>
    rw [ensureDirectory, create_eq_error_of_entry htext hway hentry]
    cases e with
    | directory =>
      simp only [FileTree.isDirectory, hentry, decide_true, if_true]
      refine .made (hadmits (FileTree.file?_eq_none_of_directory hentry)) hdirectories fun q => ?_
      split_ifs with hq
      · rw [FileTree.entry?_congr hq, hentry]
      · rfl
    | file bytes =>
      simp only [FileTree.isDirectory, hentry, Option.some.injEq, reduceCtorEq, decide_false,
        Bool.false_eq_true, if_false]
      refine .refused (fun hadmits => ?_) nofun
      have hfile := hadmits.way p (List.mem_append_right _ (List.mem_singleton.mpr rfl))
      rw [FileTree.file?, hentry] at hfile
      cases hfile

theorem ensureDirectory_result (t : FileTree) (p : Path) : Ensured t p (ensureDirectory p t) := by
  cases htext : p.fault? with
  | some f =>
    have hadmits : ¬ t.Admits p := fun h => by simp [h.fit.text] at htext
    rw [ensureDirectory, create_eq_error_of_fault htext]
    cases f <;> exact .refused hadmits nofun
  | none =>
    cases hway : t.obstacle? p with
    | none => exact ensureDirectory_result_of_way htext hway
    | some cause =>
      rw [ensureDirectory, create_eq_error_of_obstacle htext hway]
      rcases FileTree.obstacle?_cases hway with ⟨rfl, a, ha, hmissing⟩ | ⟨rfl | rfl, hadmits⟩
      · exact .missing ha hmissing
      · exact .refused hadmits nofun
      · exact .refused hadmits nofun

/-! ### All on the way -/

/-- What comes of making a directory and those on the way to it. -/
inductive MadeWay (t : FileTree) (p : Path) : Except Fault Unit × FileTree → Prop
  | made {t' : FileTree} (hadmits : t.Admits p) (hmade : t.WayMade p t') : MadeWay t p (.ok (), t')
  | refused {f : Fault} {t' : FileTree} (hadmits : ¬ t.Admits p) (hfiles : ∀ q, t'.file? q = t.file? q) :
      MadeWay t p (.error f, t')

theorem makeWay_of_missing {q : Path} (h : ensureDirectory p t = (.error (.system .missing q), t')) (n : Nat) :
    makeWay (n + 1) p t = (makeWay n p.parent >>= fun _ => ensureDirectory p) t' := by
  simp only [makeWay, h]

theorem makeWay_of_not_missing {r : Except Fault Unit × FileTree} (h : ensureDirectory p t = r)
    (hother : ∀ q, r.1 ≠ .error (.system .missing q)) (n : Nat) : makeWay (n + 1) p t = r := by
  subst h
  simp only [makeWay]
  split
  · rename_i heq
    exact absurd (congrArg Prod.fst heq) (hother _)
  · rfl

/-- With the way to the parent made, the directory is the last that is missing. -/
theorem ensureDirectory_result_of_parent (hnames : p.names ≠ []) (hadmits : t.Admits p.parent)
    (hmade : t.WayMade p.parent t₁) : MadeWay t p (ensureDirectory p t₁) := by
  have hfiles := hmade.file?_eq hadmits
  have hlast := ensureDirectory_result t₁ p
  generalize ensureDirectory p t₁ = r at hlast
  cases hlast with
  | made hadmits₁ _ hlast =>
    exact .made (hadmits₁.congr fun q => (hfiles q).symm) (.of_parent hnames hmade hlast)
  | refused hadmits₁ => exact .refused (fun h => hadmits₁ (h.congr hfiles)) hfiles
  | missing ha₁ hmissing₁ =>
    rw [Path.ancestors_eq_way_parent hnames] at ha₁
    rw [hmade.entry?_of_mem ha₁] at hmissing₁
    cases hmissing₁

/-- The induction is on the names of the path: where something on the way is missing, the way to the parent is
made first. -/
theorem makeWay_result (t : FileTree) (p : Path) {n : Nat} (hn : p.names.length = n) :
    MadeWay t p (makeWay n p t) := by
  induction n generalizing t p with
  | zero =>
    have hfirst := ensureDirectory_result t p
    rw [makeWay]
    generalize ensureDirectory p t = r at hfirst
    cases hfirst with
    | made hadmits hway hlast => exact .made hadmits (.of_way hway hlast)
    | missing ha =>
      rw [Path.ancestors_eq_nil (List.length_eq_zero_iff.mp hn)] at ha
      cases ha
    | refused hadmits => exact .refused hadmits fun _ => rfl
  | succ n ih =>
    have hnames : p.names ≠ [] := List.ne_nil_of_length_eq_add_one hn
    have hfirst := ensureDirectory_result t p
    generalize hr : ensureDirectory p t = r at hfirst
    cases hfirst with
    | made hadmits hway hlast =>
      rw [makeWay_of_not_missing hr nofun]
      exact .made hadmits (.of_way hway hlast)
    | refused hadmits hother =>
      rw [makeWay_of_not_missing hr fun q hq => hother q (Except.error.inj hq)]
      exact .refused hadmits fun _ => rfl
    | missing ha hmissing =>
      rw [makeWay_of_missing hr]
      have hparent := ih t p.parent (by simp [Path.parent, hn])
      generalize hr₁ : makeWay n p.parent t = r₁ at hparent
      cases hparent with
      | refused hadmits hfiles =>
        rw [bind_eq_of_error hr₁]
        exact .refused (fun h => hadmits (h.parent hnames)) hfiles
      | made hadmits hmade =>
        rw [bind_eq_of_ok hr₁]
        exact ensureDirectory_result_of_parent hnames hadmits hmade

/-- **When directories are made**, and what that changes. -/
theorem makeDirectories_result (t : FileTree) (p : Path) : MadeWay t p (makeDirectories p t) :=
  makeWay_result t p rfl

theorem exists_makeDirectories_eq_ok (h : t.Admits p) :
    ∃ t', makeDirectories p t = (.ok (), t') ∧ t.WayMade p t' := by
  have hresult := makeDirectories_result t p
  generalize makeDirectories p t = r at hresult
  cases hresult with
  | made _ hmade => exact ⟨_, rfl, hmade⟩
  | refused hadmits => exact absurd h hadmits

/-- **Making directories leaves every file as it is**, whether it succeeds or fails. -/
theorem file?_makeDirectories (t : FileTree) (p q : Path) : (makeDirectories p t).2.file? q = t.file? q := by
  have hresult := makeDirectories_result t p
  generalize makeDirectories p t = r at hresult
  cases hresult with
  | made hadmits hmade => exact hmade.file?_eq hadmits q
  | refused _ hfiles => exact hfiles q

end FileAction

end PromptTemplate
