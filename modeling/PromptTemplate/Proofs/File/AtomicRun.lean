import PromptTemplate.Proofs.File.Atomic

/-!
# Atomic writes one after the other

A run is a series of atomic writes of texts and of data. Each of them is all or nothing whatever the ones before it
did (`run_allOrNothing`): it succeeds exactly when there is a text to write and it has bytes, there is a place beside
the target, and the target is a path at which no directory stands, and then the file at the target is all that
changes; else no file changes. A text without bytes is the one exception. Where there is a place for it, the temporary
file is left, which is empty (`run_allOrNothing_lone`). Without such texts no step of a run leaves anything but its
targets.
-/

namespace PromptTemplate

open File

/-- An atomic write. -/
inductive Write where
  | text (target : Path) (contents : Text)
  | json (target : Path) (payload : Data)

namespace Write

def target : Write → Path
  | .text target _ => target
  | .json target _ => target

/-- The text that is to stand at the target. Some data cannot be written. -/
def contents (host : Host) : Write → Except Fault Text
  | .text _ contents => .ok contents
  | .json _ payload => jsonText host.room payload

def run (host : Host) : Write → FileAction Unit
  | .text target contents => writeAtomic host target contents
  | .json target payload => writeJsonAtomic host target payload

theorem run_eq_writeWith (host : Host) (w : Write) : w.run host = writeWith host w.target (w.contents host) := by
  cases w with
  | text target contents => exact writeAtomic_eq_writeWith host target contents
  | json target payload => exact writeJsonAtomic_eq_writeWith host target payload

/-- There is nothing to write, or a text with bytes. -/
def IsScalar (host : Host) (w : Write) : Prop := ∀ text, w.contents host = .ok text → text.isScalar = true

/-! ### All or nothing -/

/-- A text without bytes, and a place for it. -/
def IsStranded (host : Host) (t : FileTree) (w : Write) : Prop :=
  (∃ text, w.contents host = .ok text ∧ text.isScalar = false) ∧ HasPlace host t w.target

/-- **All or nothing**: what a write of `w` in the tree `t` comes to, with all files after it. -/
structure AllOrNothing (host : Host) (t : FileTree) (w : Write) (r : Except Fault Unit × FileTree) : Prop where
  /-- When it succeeds. -/
  succeeds_iff : r.1.isOk = true ↔
    (∃ text, w.contents host = .ok text ∧ text.isScalar = true) ∧ HasPlace host t w.target ∧
      w.target.IsFit ∧ ¬ IsBarred t w.target
  /-- The target holds the text, and no other file has changed. -/
  written : r.1.isOk = true → ∃ text bytes, w.contents host = .ok text ∧ Utf8.encode text = .ok bytes ∧
    ∀ q, r.2.file? q = if q.normal = w.target.normal then some bytes else t.file? q
  /-- No file has changed. -/
  kept : r.1.isOk = false → ¬ w.IsStranded host t → ∀ q, r.2.file? q = t.file? q
  /-- An empty file at a drawn name that was free is all that is new. -/
  stranded : w.IsStranded host t → ∃ d ∈ host.draws, t.file? (temporaryPath w.target d) = none ∧
    ∀ q, r.2.file? q = if q.normal = (temporaryPath w.target d).normal then some [] else t.file? q

theorem allOrNothing_run (host : Host) (t : FileTree) (w : Write) : w.AllOrNothing host t (w.run host t) := by
  have hresult := writeWith_result host t w.target (w.contents host)
  rw [← run_eq_writeWith] at hresult
  generalize w.run host t = r at hresult
  cases hresult with
  | done hcontents hneeds hencode hfiles =>
    have hstranded : ¬ w.IsStranded host t := fun ⟨⟨_, htext, hlone⟩, _⟩ => by
      rw [← Except.ok.inj (hcontents.symm.trans htext), hneeds.scalar] at hlone
      cases hlone
    exact {
      succeeds_iff := iff_of_true rfl ⟨⟨_, hcontents, hneeds.scalar⟩, hneeds.place, hneeds.fit, hneeds.free⟩
      written := fun _ => ⟨_, _, hcontents, hencode, hfiles⟩
      kept := nofun
      stranded := fun h => absurd h hstranded }
  | kept hneeds hstopped hfiles =>
    exact {
      succeeds_iff := iff_of_false Bool.false_ne_true fun ⟨⟨_, htext, hscalar⟩, hplace, hfit, hfree⟩ =>
        hneeds _ htext ⟨hscalar, hplace, hfit, hfree⟩
      written := nofun
      kept := fun _ _ => hfiles
      stranded := fun ⟨⟨_, htext, hlone⟩, hplace⟩ => absurd hplace (hstopped _ htext hlone) }
  | stopped hcontents hlone hplace hd hfree hfiles =>
    exact {
      succeeds_iff := iff_of_false Bool.false_ne_true fun ⟨⟨_, htext, hscalar⟩, _⟩ => by
        rw [← Except.ok.inj (hcontents.symm.trans htext), hlone] at hscalar
        cases hscalar
      written := nofun
      kept := fun _ hstranded => absurd ⟨⟨_, hcontents, hlone⟩, hplace⟩ hstranded
      stranded := fun _ => ⟨_, hd, hfree, hfiles⟩ }

/-- A write without lone surrogates leaves every place but the target as it was. -/
theorem AllOrNothing.file?_eq {host : Host} {t : FileTree} {w : Write} {r : Except Fault Unit × FileTree}
    (h : w.AllOrNothing host t r) (hscalar : w.IsScalar host) {q : Path} (hq : q.normal ≠ w.target.normal) :
    r.2.file? q = t.file? q := by
  cases hok : r.1.isOk with
  | true =>
    obtain ⟨_, _, -, -, hfiles⟩ := h.written hok
    rw [hfiles, if_neg hq]
  | false =>
    refine h.kept hok (fun ⟨⟨_, htext, hlone⟩, _⟩ => ?_) q
    rw [hscalar _ htext] at hlone
    cases hlone

/-! ### Runs -/

/-- A step of a run: the system it runs on, the tree before it, what is written and how that ends. -/
structure Step where
  host : Host
  before : FileTree
  write : Write
  result : Except Fault Unit × FileTree

/-- The steps of a run, each in the tree that the one before it left. What the system gives may differ from step to
step. -/
def steps (t : FileTree) : List (Host × Write) → List Step
  | [] => []
  | (host, w) :: ws => ⟨host, t, w, w.run host t⟩ :: steps (w.run host t).2 ws

theorem allOrNothing_of_mem_steps {t : FileTree} {ws : List (Host × Write)} {x : Step} (hx : x ∈ steps t ws) :
    x.write.AllOrNothing x.host x.before x.result := by
  induction ws generalizing t with
  | nil => cases hx
  | cons w ws ih =>
    rcases List.mem_cons.mp hx with rfl | hx
    · exact allOrNothing_run w.1 t w.2
    · exact ih hx

/-- No step of a run leaves anything but the targets changed. -/
theorem file?_of_mem_steps {t : FileTree} {ws : List (Host × Write)} (hscalar : ∀ w ∈ ws, w.2.IsScalar w.1)
    {q : Path} (hq : ∀ w ∈ ws, q.normal ≠ w.2.target.normal) {x : Step} (hx : x ∈ steps t ws) :
    x.result.2.file? q = t.file? q := by
  induction ws generalizing t with
  | nil => cases hx
  | cons w ws ih =>
    rw [List.forall_mem_cons] at hscalar hq
    have hfirst := (allOrNothing_run w.1 t w.2).file?_eq hscalar.1 hq.1
    rcases List.mem_cons.mp hx with rfl | hx
    · exact hfirst
    · exact (ih hscalar.2 hq.2 hx).trans hfirst

/-- **A run of atomic writes**, from any tree: each step is all or nothing, whatever the steps before it did and
whatever names the system draws. In a run of texts with bytes, a place that is no target holds after each step what it
held at the start, so no temporary file is left. -/
theorem run_allOrNothing (t : FileTree) (ws : List (Host × Write)) :
    (∀ x ∈ steps t ws, x.write.AllOrNothing x.host x.before x.result) ∧
      ((∀ w ∈ ws, w.2.IsScalar w.1) → ∀ x ∈ steps t ws, ∀ q : Path,
        (∀ w ∈ ws, q.normal ≠ w.2.target.normal) → x.result.2.file? q = t.file? q) :=
  ⟨fun _ hx => allOrNothing_of_mem_steps hx, fun hscalar _ hx _ hq => file?_of_mem_steps hscalar hq hx⟩

/-- A text to a directory that has to be made, one to a directory that is there and one beside which there is no room,
then data below a file, in its place, and of a kind that cannot be written. -/
theorem run_allOrNothing_mixed :
    let host : Host := ⟨Path.ofText "/w", [⟨"aaaaaaaa", by decide, by decide⟩], 100⟩
    let t := FileTree.ofEntries [(Path.ofText "r", .file []), (Path.ofText "d", .directory)]
    let ws := [(host, .text (Path.ofText "a/b/x") "hi"), (host, .text (Path.ofText "d") "x"),
      (host, .text ⟨[], [List.replicate 243 (.char 'n')]⟩ "hi"), (host, .json (Path.ofText "r/x") (.map [])),
      (host, .json (Path.ofText "r") (.map [])), (host, .json (Path.ofText "r") (.bytes []))]
    ((steps t ws).map fun x => x.result.1.isOk) = [true, false, false, false, true, false] ∧
      (∀ w ∈ ws, w.2.IsScalar w.1) ∧
      ∀ x ∈ steps t ws, x.result.2.file? (Path.ofText "d.aaaaaaaa.tmp") = none := by
  intro host t ws
  have hscalar : ∀ w ∈ ws, w.2.IsScalar w.1 := by
    have hall : ∀ w ∈ ws, ((w.2.contents w.1).toOption.all Text.isScalar) = true := by decide +kernel
    intro w hw _ htext
    simpa [htext, Except.toOption] using hall w hw
  have hapart : ∀ w ∈ ws, (Path.ofText "d.aaaaaaaa.tmp").normal ≠ w.2.target.normal := by decide +kernel
  exact ⟨by decide +kernel, hscalar, fun x hx =>
    ((run_allOrNothing t ws).2 hscalar x hx _ hapart).trans (by decide +kernel)⟩

/-- A lone surrogate has no bytes, and its write leaves a file beside the target. -/
theorem run_allOrNothing_lone :
    let host : Host := ⟨Path.ofText "/w", [⟨"aaaaaaaa", by decide, by decide⟩], 100⟩
    let t := FileTree.ofEntries [(Path.ofText "p", .file [111, 108, 100])]
    let w : Write := .text (Path.ofText "p") [.surrogate 0]
    (w.run host t).1.isOk = false ∧ t.file? (Path.ofText "p.aaaaaaaa.tmp") = none ∧
      (w.run host t).2.file? (Path.ofText "p.aaaaaaaa.tmp") = some [] := by
  decide +kernel

end Write

end PromptTemplate
