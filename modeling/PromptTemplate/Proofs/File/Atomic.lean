import PromptTemplate.Proofs.File.Temporary

/-!
# How an atomic write ends

A write needs a place beside its target (`HasPlace`): the directories are there or can be made, the file system
takes the names for temporary files there, and one of those that are drawn is free. The text then takes the place of
the target and nothing else changes, or no file changes. The one case in which a write leaves something behind is a
text that has no bytes: the temporary file is there before that is known (`writeWith_result`).
-/

namespace PromptTemplate

namespace File

variable {host : Host} {t t₁ : FileTree} {target : Path} {d : Draw} {text : Text}

/-! ### What a write needs -/

/-- Nothing stands at the temporary path, and none of the directories for the target is made there. -/
def IsFree (t : FileTree) (target : Path) (d : Draw) : Prop :=
  t.entry? (temporaryPath target d) = none ∧
    (temporaryPath target d).normal ∉ target.parent.way.map Path.normal

instance (t : FileTree) (target : Path) (d : Draw) : Decidable (IsFree t target d) :=
  inferInstanceAs (Decidable (_ ∧ _))

/-- There can be a temporary file beside the target. -/
structure HasPlace (host : Host) (t : FileTree) (target : Path) : Prop where
  parent : t.Admits target.parent
  room : HasRoom host.home target
  free : ∃ d ∈ host.draws, IsFree t target d

/-- A directory stands at the target, or has to be made there. -/
def IsBarred (t : FileTree) (target : Path) : Prop :=
  t.entry? target = some .directory ∨ target.normal ∈ target.parent.way.map Path.normal

instance (t : FileTree) (target : Path) : Decidable (IsBarred t target) :=
  inferInstanceAs (Decidable (_ ∨ _))

/-! ### From the temporary file to the target -/

/-- Write a text to an open temporary file and put that in the place of the target. -/
def finish (host : Host) (target temporary : Path) (text : Text) : FileAction Unit := do
  FileAction.fill temporary text
  (FileAction.move (temporary.absolute host.home) temporary target).onFailure (FileTree.erase temporary)

theorem replace_eq_finish (host : Host) (target : Path) (text : Text) : replace host target text =
    (openTemporary host.home target host.draws >>= fun temporary => finish host target temporary text) := rfl

section Finish

variable {bytes : List UInt8}

theorem finish_eq_of_encode (host : Host) (target : Path) (d : Draw) (t : FileTree)
    (hencode : Utf8.encode text = .ok bytes) :
    finish host target (temporaryPath target d) text (t.put (temporaryPath target d) (.file [])) =
      (FileAction.move ((temporaryPath target d).absolute host.home) (temporaryPath target d) target).onFailure
        (FileTree.erase (temporaryPath target d)) (t.put (temporaryPath target d) (.file bytes)) := by
  rw [finish, FileAction.bind_eq_of_ok (FileAction.fill_eq_ok hencode), FileTree.put_put]

variable (host : Host) (hfree : t.entry? (temporaryPath target d) = none)

include hfree

/-- A text without bytes leaves the temporary file behind. -/
theorem exists_finish_of_lone (hlone : text.isScalar = false) :
    ∃ f t', finish host target (temporaryPath target d) text (t.put (temporaryPath target d) (.file [])) =
        (.error f, t') ∧
      ∀ q, t'.file? q = if q.normal = (temporaryPath target d).normal then some [] else t.file? q := by
  obtain ⟨f, hfill⟩ := FileAction.exists_fill_eq_error (t := t.put (temporaryPath target d) (.file []))
    (p := temporaryPath target d) hlone
  refine ⟨f, t.put (temporaryPath target d) (.file []), ?_, ?_⟩
  · rw [finish, FileAction.bind_eq_of_error hfill, FileTree.put_put]
  · exact fun q => FileTree.file?_put (FileTree.isStart_eq_false_of_free hfree) t q []

variable (hway : ∀ a ∈ target.parent.way, t.entry? a = some .directory)
  (hnames : ∀ n ∈ target.parent.names, Path.isLongName n = false)
  (htakes : Takes host.home target d)

theorem way_apart (hway : ∀ a ∈ target.parent.way, t.entry? a = some .directory) :
    ∀ a ∈ (temporaryPath target d).ancestors,
      t.entry? a = some .directory ∧ a.normal ≠ (temporaryPath target d).normal := by
  intro a ha
  have hdirectory := hway a (ancestors_temporaryPath target d ▸ ha)
  refine ⟨hdirectory, fun hn => ?_⟩
  rw [FileTree.entry?_congr hn, hfree] at hdirectory
  cases hdirectory

include hway hnames htakes

/-- The text takes the place of the target, and nothing else changes. -/
theorem exists_finish_eq_ok (hencode : Utf8.encode text = .ok bytes) (htext : target.fault? = none)
    (htarget : t.entry? target ≠ some .directory) :
    ∃ t', finish host target (temporaryPath target d) text (t.put (temporaryPath target d) (.file [])) =
        (.ok (), t') ∧
      ∀ q, t'.file? q = if q.normal = target.normal then some bytes else t.file? q := by
  obtain ⟨t', hmove, hentries⟩ := FileTree.exists_move_put_eq_ok (parent_temporaryPath target d)
    (way_apart hfree hway) (by rw [hfree]; nofun) (FileTree.obstacle?_eq_none_iff.mp
      ((takes_iff host.home hway hnames).mp htakes).2).2 (names_of_takes host.home hnames htakes) htarget bytes
  refine ⟨t', ?_, fun q => ?_⟩
  · rw [finish_eq_of_encode host target d t hencode, FileAction.onFailure, FileAction.move_eq_ok htakes.1 htext hmove]
  · by_cases hq : q.normal = target.normal
    · rw [if_pos hq, FileTree.file?_eq_some_iff, hentries, if_pos hq]
    · rw [if_neg hq]
      exact FileTree.file?_eq_of_freed hfree (by rw [hentries, if_neg hq])

/-- Where the target cannot be written, the temporary file is removed and no file changes. -/
theorem exists_finish_eq_error (hencode : Utf8.encode text = .ok bytes)
    (h : target.fault? ≠ none ∨ t.entry? target = some .directory) :
    ∃ f t', finish host target (temporaryPath target d) text (t.put (temporaryPath target d) (.file [])) =
        (.error f, t') ∧
      ∀ q, t'.file? q = t.file? q := by
  have hstart := FileTree.isStart_eq_false_of_free hfree
  have hbarred := FileTree.writeObstacle?_put_eq_none_iff (parent_temporaryPath target d) (way_apart hfree hway)
    (by rw [hfree]; nofun) (names_of_takes host.home hnames htakes) bytes
  obtain ⟨f, hmove⟩ := FileAction.exists_move_eq_error ((temporaryPath target d).absolute host.home)
    (temporaryPath target d) (h.imp_right fun hdirectory => hbarred.not.mpr (not_not_intro hdirectory))
  refine ⟨f, _, by rw [finish_eq_of_encode host target d t hencode, FileAction.onFailure, hmove], fun q => ?_⟩
  apply FileTree.file?_eq_of_freed hfree
  rw [FileTree.entry?_erase hstart, FileTree.entry?_put hstart]
  split_ifs <;> rfl

end Finish

/-! ### The end of a write -/

/-- Write what is to stand at the target, if that can be written at all. -/
def writeWith (host : Host) (target : Path) (contents : Except Fault Text) : FileAction Unit := do
  FileAction.makeDirectories target.parent
  let text ← FileAction.look fun _ => contents
  replace host target text

theorem writeAtomic_eq_writeWith (host : Host) (target : Path) (text : Text) :
    writeAtomic host target text = writeWith host target (.ok text) := rfl

theorem writeJsonAtomic_eq_writeWith (host : Host) (target : Path) (d : Data) :
    writeJsonAtomic host target d = writeWith host target (jsonText host.room d) := rfl

/-- What an atomic write of a text needs. -/
structure Succeeds (host : Host) (t : FileTree) (target : Path) (text : Text) : Prop where
  scalar : text.isScalar = true
  place : HasPlace host t target
  fit : target.IsFit
  free : ¬ IsBarred t target

/-- How an atomic write ends, with all files after it. -/
inductive AtomicResult (host : Host) (t : FileTree) (target : Path) (contents : Except Fault Text) :
    Except Fault Unit × FileTree → Prop
  | done {text : Text} {bytes : List UInt8} {t' : FileTree} (hcontents : contents = .ok text)
      (hneeds : Succeeds host t target text) (hencode : Utf8.encode text = .ok bytes)
      (hfiles : ∀ q, t'.file? q = if q.normal = target.normal then some bytes else t.file? q) :
      AtomicResult host t target contents (.ok (), t')
  | kept {f : Fault} {t' : FileTree} (hneeds : ∀ text, contents = .ok text → ¬ Succeeds host t target text)
      (hstopped : ∀ text, contents = .ok text → text.isScalar = false → ¬ HasPlace host t target)
      (hfiles : ∀ q, t'.file? q = t.file? q) :
      AtomicResult host t target contents (.error f, t')
  | stopped {text : Text} {d : Draw} {f : Fault} {t' : FileTree} (hcontents : contents = .ok text)
      (hlone : text.isScalar = false) (hplace : HasPlace host t target) (hd : d ∈ host.draws)
      (hfree : t.file? (temporaryPath target d) = none)
      (hfiles : ∀ q, t'.file? q = if q.normal = (temporaryPath target d).normal then some [] else t.file? q) :
      AtomicResult host t target contents (.error f, t')

/-- Without a place beside the target nothing is written. -/
theorem AtomicResult.of_not_hasPlace {contents : Except Fault Text} {f : Fault} (hplace : ¬ HasPlace host t target)
    (hfiles : ∀ q, t₁.file? q = t.file? q) : AtomicResult host t target contents (.error f, t₁) :=
  .kept (fun _ _ h => hplace h.place) (fun _ _ _ => hplace) hfiles

section Made

variable (hadmits : t.Admits target.parent) (hmade : t.WayMade target.parent t₁)

include hadmits hmade

/-- With the directories made and a temporary file opened, the write ends as the text and the target say. -/
theorem finish_result (hd : d ∈ host.draws) (hroom : HasRoom host.home target)
    (hfree : t₁.entry? (temporaryPath target d) = none) (text : Text) : AtomicResult host t target (.ok text)
      (finish host target (temporaryPath target d) text (t₁.put (temporaryPath target d) (.file []))) := by
  have hsame := hmade.file?_eq hadmits
  have hway : ∀ a ∈ target.parent.way, t₁.entry? a = some .directory := fun _ ha => hmade.entry?_of_mem ha
  have hbarred : t₁.entry? target = some .directory ↔ IsBarred t target := hmade.entry?_eq_directory_iff
  have hplace : HasPlace host t target := ⟨hadmits, hroom, d, hd, hmade.entry?_eq_none_iff.mp hfree⟩
  have hnames := hadmits.fit.names
  cases hencode : Utf8.encode text with
  | error f =>
    have hlone := Utf8.isScalar_eq_false_of_encode_eq_error hencode
    obtain ⟨f', t', hend, hfiles⟩ := exists_finish_of_lone host hfree hlone
    rw [hend]
    refine .stopped rfl hlone hplace hd ?_ fun q => by rw [hfiles, hsame]
    rw [← hsame, FileTree.file?_eq_none_of_free hfree]
  | ok bytes =>
    have hscalar := (Utf8.encode_eq_ok_iff.mp hencode).1
    by_cases hneeds : target.fault? = none ∧ ¬ IsBarred t target
    · obtain ⟨htext, hopen⟩ := hneeds
      obtain ⟨t', hend, hfiles⟩ :=
        exists_finish_eq_ok host hfree hway hnames (hroom d) hencode htext (hbarred.not.mpr hopen)
      rw [hend]
      exact .done rfl ⟨hscalar, hplace, ⟨htext, names_of_takes host.home hnames (hroom d)⟩, hopen⟩ hencode
        fun q => by rw [hfiles, hsame]
    · have hbar : target.fault? ≠ none ∨ t₁.entry? target = some .directory :=
        (not_and_or.mp hneeds).imp_right fun h => hbarred.mpr (not_not.mp h)
      obtain ⟨f, t', hend, hfiles⟩ := exists_finish_eq_error host hfree hway hnames (hroom d) hencode hbar
      rw [hend]
      refine .kept (fun _ _ h => hneeds ⟨h.fit.text, h.free⟩) (fun _ hcontents hlone => ?_)
        fun q => by rw [hfiles, hsame]
      rw [← Except.ok.inj hcontents, hscalar] at hlone
      cases hlone

/-- With the directories made, a free name is found, or there is no place beside the target. -/
theorem replace_result (host : Host) (text : Text) :
    AtomicResult host t target (.ok text) (replace host target text t₁) := by
  have hopened := openTemporary_result host.home (fun _ ha => hmade.entry?_of_mem ha) hadmits.fit.names host.draws
  rw [replace_eq_finish]
  generalize ho : openTemporary host.home target host.draws t₁ = o at hopened
  cases hopened with
  | refused hnone =>
    rw [FileAction.bind_eq_of_error ho]
    refine .of_not_hasPlace (fun ⟨_, hroom, d, hd, hfree⟩ => ?_) (hmade.file?_eq hadmits)
    exact hnone hroom d hd (hmade.entry?_eq_none_iff.mpr hfree)
  | opened hd hroom hfree =>
    rw [FileAction.bind_eq_of_ok ho]
    exact finish_result hadmits hmade hd hroom hfree text

end Made

/-- **How an atomic write ends** on any system and in any tree. -/
theorem writeWith_result (host : Host) (t : FileTree) (target : Path) (contents : Except Fault Text) :
    AtomicResult host t target contents (writeWith host target contents t) := by
  have hresult := FileAction.makeDirectories_result t target.parent
  rw [writeWith]
  generalize hr : FileAction.makeDirectories target.parent t = r at hresult
  cases hresult with
  | refused hadmits hfiles =>
    rw [FileAction.bind_eq_of_error hr]
    exact .of_not_hasPlace (fun h => hadmits h.parent) hfiles
  | made hadmits hmade =>
    rw [FileAction.bind_eq_of_ok hr]
    cases contents with
    | error f => exact .kept nofun nofun (hmade.file?_eq hadmits)
    | ok text => exact replace_result hadmits hmade host text

end File

end PromptTemplate
