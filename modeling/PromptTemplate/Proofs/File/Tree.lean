import Mathlib.Data.List.Basic
import Mathlib.Tactic.SplitIfs
import PromptTemplate.File.Tree
import PromptTemplate.Proofs.File.Path
import PromptTemplate.Proofs.Text.Utf8

/-!
# What work on a file tree does

Two paths with one normal form are one place, and a tree is known by what stands at each place. Putting,
erasing and moving change the entries of the places they name and no other. A path is looked up where the way to
it is made and no name on it is too long (`obstacle?_eq_none_iff`). A text put beside a target takes its place
(`exists_move_put_eq_ok`), unless a directory bars the place (`writeObstacle?_put_eq_none_iff`).
-/

namespace PromptTemplate

namespace FileTree

variable {t t' : FileTree} {p q : Path} {e : Entry} {bytes : List UInt8}

/-! ### Entries -/

theorem entry?_congr (h : p.normal = q.normal) : t.entry? p = t.entry? q := by
  unfold entry?
  rw [Path.isStart_congr h, h]

theorem entry?_of_isStart (h : p.isStart = true) : t.entry? p = some .directory := by
  unfold entry?
  exact if_pos h

/-- A starting point is a directory in every tree. -/
theorem isStart_eq_false (h : t.entry? p ≠ some .directory) : p.isStart = false :=
  Bool.eq_false_iff.mpr fun hstart => h (entry?_of_isStart hstart)

theorem isStart_eq_false_of_free (h : t.entry? p = none) : p.isStart = false :=
  isStart_eq_false (by rw [h]; nofun)

theorem find?_putAt (t : FileTree) (p q : Path) (e : Entry) :
    ((t.putAt p e).find? fun f => f.1 = q).map Prod.snd =
      if q = p then some e else (t.find? fun f => f.1 = q).map Prod.snd := by
  induction t with
  | nil => by_cases h : q = p <;> simp [putAt, h, Ne.symm, eq_comm]
  | cons f t ih =>
    obtain ⟨p', e'⟩ := f
    unfold putAt
    by_cases hp : p' = p
    · subst hp
      by_cases hq : q = p' <;> simp [hq, Ne.symm, eq_comm]
    · by_cases hq : p' = q
      · subst hq
        simp [hp]
      · simp [hp, hq, ih]

theorem entry?_put (h : p.isStart = false) (t : FileTree) (q : Path) (e : Entry) :
    entry? (t.put p e) q = if q.normal = p.normal then some e else t.entry? q := by
  unfold entry? put
  rw [find?_putAt]
  split_ifs with hstart hq <;> try rfl
  rw [Path.isStart_congr hq, h] at hstart
  cases hstart

theorem entry?_erase (h : p.isStart = false) (t : FileTree) (q : Path) :
    entry? (t.erase p) q = if q.normal = p.normal then none else t.entry? q := by
  unfold entry? erase
  rw [List.find?_filter]
  by_cases hq : q.normal = p.normal
  · rw [if_neg (by rw [Path.isStart_congr hq, h]; nofun), if_pos hq]
    simp [hq]
  · rw [if_neg hq]
    congr 3
    funext f
    by_cases hf : f.1 = q.normal <;> simp [hf, hq]

/-- What is put last counts. -/
theorem put_put (t : FileTree) (p : Path) (e e' : Entry) : put p e' (t.put p e) = t.put p e' := by
  unfold put
  induction t with
  | nil => simp [putAt]
  | cons f t ih =>
    obtain ⟨p', e''⟩ := f
    by_cases hp : p' = p.normal <;> simp [putAt, hp, ih]

/-- The content of the file at a path, if a file stands there. -/
def file? (t : FileTree) (p : Path) : Option (List UInt8) :=
  match t.entry? p with
  | some (.file content) => some content
  | _ => none

theorem file?_eq_some_iff : t.file? p = some bytes ↔ t.entry? p = some (.file bytes) := by
  unfold file?
  split <;> simp_all

theorem file?_eq_none_iff : t.file? p = none ↔ ∀ bytes, t.entry? p ≠ some (.file bytes) := by
  simp only [Option.eq_none_iff_forall_ne_some, ne_eq, file?_eq_some_iff]

theorem file?_eq_of_entry?_eq {t' : FileTree} (h : t'.entry? q = t.entry? q) : t'.file? q = t.file? q := by
  rw [file?, h, file?]

theorem file?_eq_none_of_directory (h : t.entry? p = some .directory) : t.file? p = none := by
  rw [file?, h]

theorem file?_eq_none_of_free (h : t.entry? p = none) : t.file? p = none := by
  rw [file?, h]

theorem file?_put (h : p.isStart = false) (t : FileTree) (q : Path) (bytes : List UInt8) :
    file? (t.put p (.file bytes)) q = if q.normal = p.normal then some bytes else t.file? q := by
  by_cases hq : q.normal = p.normal
  · rw [if_pos hq, file?_eq_some_iff, entry?_put h, if_pos hq]
  · rw [if_neg hq]
    exact file?_eq_of_entry?_eq (by rw [entry?_put h, if_neg hq])

/-- A place that was free and is free again holds the file that it held, which is none. -/
theorem file?_eq_of_freed (hfree : t.entry? p = none)
    (h : t'.entry? q = if q.normal = p.normal then none else t.entry? q) : t'.file? q = t.file? q := by
  apply file?_eq_of_entry?_eq
  rw [h]
  split_ifs with hn
  · rw [entry?_congr hn, hfree]
  · rfl

/-! ### The way to a path -/

theorem bar?_eq_none_iff {a : Path} :
    t.bar? a = none ↔ t.entry? a = some .directory ∧ Path.isLongName a.name = false := by
  unfold bar?
  cases Path.isLongName a.name with
  | true => simp
  | false =>
    cases t.entry? a with
    | none => simp
    | some e => cases e <;> simp

/-- **When a path is looked up**: the way to it is made, and no name is too long. -/
theorem obstacle?_eq_none_iff :
    t.obstacle? p = none ↔
      (∀ a ∈ p.ancestors, t.entry? a = some .directory) ∧ ∀ n ∈ p.names, Path.isLongName n = false := by
  rw [obstacle?, Option.or_eq_none_iff, List.findSome?_eq_none_iff, Path.forall_mem_names_iff (by decide)]
  simp only [bar?_eq_none_iff, ite_eq_right_iff, reduceCtorEq, imp_false, Bool.not_eq_true]
  exact ⟨fun ⟨hway, hname⟩ => ⟨fun a ha => (hway a ha).1, fun a ha => (hway a ha).2, hname⟩,
    fun ⟨hway, hnames, hname⟩ => ⟨fun a ha => ⟨hway a ha, hnames a ha⟩, hname⟩⟩

theorem content_eq_ok_iff :
    t.content p = .ok bytes ↔ t.obstacle? p = none ∧ t.entry? p = some (.file bytes) := by
  unfold content find
  cases t.obstacle? p with
  | some cause => simp
  | none =>
    cases t.entry? p with
    | none => simp
    | some e => cases e <;> simp

/-- **When a path is read**: it is one, and a file stands there with its way made. -/
theorem read_eq_ok_iff : t.read p = .ok bytes ↔ p.fault? = none ∧ t.content p = .ok bytes := by
  unfold read
  cases p.fault? with
  | some f => simp
  | none => cases t.content p <;> simp [Except.mapError]

theorem writeObstacle?_eq_none_iff :
    t.writeObstacle? p = none ↔ t.obstacle? p = none ∧ t.entry? p ≠ some .directory := by
  unfold writeObstacle? isDirectory
  cases t.obstacle? p with
  | some cause => simp
  | none => simp

/-! ### Moving -/

/-- The target holds what the source held, and nothing is left at the source. -/
theorem exists_move_eq_ok {source target : Path} (hsource : t.content source = .ok bytes)
    (htarget : t.writeObstacle? target = none) :
    ∃ t', t.move source target = .ok t' ∧ ∀ q, t'.entry? q =
      if q.normal = target.normal then some (.file bytes)
      else if q.normal = source.normal then none else t.entry? q := by
  have hentry := (content_eq_ok_iff.mp hsource).2
  have hstart := isStart_eq_false (writeObstacle?_eq_none_iff.mp htarget).2
  have hstart' : source.isStart = false := isStart_eq_false (t := t) (by rw [hentry]; simp)
  unfold move
  rw [hsource, htarget]
  dsimp only
  split
  · rename_i heq
    refine ⟨t, rfl, fun q => ?_⟩
    by_cases hq : q.normal = target.normal
    · rw [if_pos hq, entry?_congr (hq.trans heq.symm), hentry]
    · rw [if_neg hq, if_neg (by rwa [heq])]
  · exact ⟨_, rfl, fun q => by rw [entry?_put hstart, entry?_erase hstart']⟩

theorem exists_move_eq_error (source : Path) {target : Path} (h : t.writeObstacle? target ≠ none) :
    ∃ cause, t.move source target = .error cause := by
  unfold move
  cases t.content source with
  | error cause => exact ⟨cause, rfl⟩
  | ok content =>
    obtain ⟨cause, hcause⟩ := Option.ne_none_iff_exists'.mp h
    rw [hcause]
    cases cause <;> exact ⟨_, rfl⟩

/-! ### Beside a target -/

section Beside

variable {source target : Path} (hbeside : source.parent = target.parent)
  (hway : ∀ a ∈ source.ancestors, t.entry? a = some .directory ∧ a.normal ≠ source.normal)
  (hsource : t.entry? source ≠ some .directory)
  (hnames : ∀ n ∈ source.names, Path.isLongName n = false)
  (hnames' : ∀ n ∈ target.names, Path.isLongName n = false)

include hway hsource hnames in
/-- A file put at a place with its way made can be read there. -/
theorem content_put (bytes : List UInt8) : content (t.put source (.file bytes)) source = .ok bytes := by
  have hput := fun q => entry?_put (isStart_eq_false hsource) t q (.file bytes)
  refine content_eq_ok_iff.mpr ⟨obstacle?_eq_none_iff.mpr ⟨fun a ha => ?_, hnames⟩, ?_⟩
  · rw [hput, if_neg (hway a ha).2, (hway a ha).1]
  · rw [hput, if_pos rfl]

include hbeside hway hsource hnames' in
/-- With a file put beside the target, only a directory bars the target. -/
theorem writeObstacle?_put_eq_none_iff (bytes : List UInt8) :
    writeObstacle? (t.put source (.file bytes)) target = none ↔ t.entry? target ≠ some .directory := by
  have hput := fun q => entry?_put (isStart_eq_false hsource) t q (.file bytes)
  have hfar : obstacle? (t.put source (.file bytes)) target = none := by
    refine obstacle?_eq_none_iff.mpr ⟨fun a ha => ?_, hnames'⟩
    have ha' := Path.mem_ancestors_of_parent_eq hbeside
      (Path.names_ne_nil_of_isStart_eq_false (isStart_eq_false hsource)) ha
    rw [hput, if_neg (hway a ha').2, (hway a ha').1]
  rw [writeObstacle?_eq_none_iff, and_iff_right hfar, hput]
  split_ifs with hn
  · rw [entry?_congr hn]
    exact iff_of_true nofun hsource
  · rfl

include hbeside hway hsource hnames hnames' in
/-- **A text put beside a target takes its place**, and that is all that changes. -/
theorem exists_move_put_eq_ok (htarget : t.entry? target ≠ some .directory) (bytes : List UInt8) :
    ∃ t', move (t.put source (.file bytes)) source target = .ok t' ∧ ∀ q, t'.entry? q =
      if q.normal = target.normal then some (.file bytes)
      else if q.normal = source.normal then none else t.entry? q := by
  obtain ⟨t', hmove, hentries⟩ := exists_move_eq_ok (content_put hway hsource hnames bytes)
    ((writeObstacle?_put_eq_none_iff hbeside hway hsource hnames' bytes).mpr htarget)
  refine ⟨t', hmove, fun q => ?_⟩
  rw [hentries, entry?_put (isStart_eq_false hsource)]
  split_ifs <;> rfl

end Beside

end FileTree

/-! ### Work that succeeds or fails -/

namespace FileAction

variable {α β : Type} {t t' : FileTree} {p handed : Path}

theorem bind_eq_of_ok {first : FileAction α} {a : α} (h : first t = (.ok a, t')) (next : α → FileAction β) :
    (first >>= next) t = next a t' := by
  simp only [bind, h]

theorem bind_eq_of_error {first : FileAction α} {f : Fault} (h : first t = (.error f, t'))
    (next : α → FileAction β) : (first >>= next) t = (.error f, t') := by
  simp only [bind, h]

/-- What is made of a result changes nothing else. -/
theorem bind_pure_eq (first : FileAction α) (f : α → β) (t : FileTree) :
    (first >>= fun a => pure (f a)) t = ((first t).1.map f, (first t).2) := by
  rcases h : first t with ⟨a | a, t₁⟩
  · rw [bind_eq_of_error h]
    rfl
  · rw [bind_eq_of_ok h]
    rfl

/-- Two pieces of work that leave a tree as it is leave it so one after the other. -/
theorem bind_snd_eq {first : FileAction α} {next : α → FileAction β} (hfirst : (first t).2 = t)
    (hnext : ∀ a, (next a t).2 = t) : ((first >>= next) t).2 = t := by
  rcases h : first t with ⟨a | a, t₁⟩
  · rw [bind_eq_of_error h]
    rwa [h] at hfirst
  · rw [h] at hfirst
    subst hfirst
    rw [bind_eq_of_ok h]
    exact hnext a

theorem handOver_eq_ok (h : p.fault? = none) : handOver p t = (.ok (), t) := by
  simp only [handOver, look, h]

theorem handOver_eq_error {f : PathFault} (h : p.fault? = some f) :
    handOver p t = (.error (.ofPath p f), t) := by
  simp only [handOver, look, h]

/-! ### Reading -/

theorem readText_eq_ok {bytes : List UInt8} {text : Text} (hread : t.read p = .ok bytes)
    (hdecode : Utf8.decode bytes = .ok text) : readText p t = (.ok text.withLineFeeds, t) := by
  simp only [readText, look, hread, hdecode]

theorem create_eq_ok {e : Entry} (hhanded : handed.fault? = none) (hway : t.obstacle? p = none)
    (hfree : t.entry? p = none) : create handed p e t = (.ok (), t.put p e) := by
  rw [create, bind_eq_of_ok (handOver_eq_ok hhanded)]
  simp [change, FileTree.create, hway, hfree, Except.mapError]

theorem create_eq_error_of_fault {f : PathFault} (h : handed.fault? = some f) (e : Entry) :
    create handed p e t = (.error (.ofPath handed f), t) := by
  rw [create, bind_eq_of_error (handOver_eq_error h)]

theorem create_eq_error_of_obstacle {cause : FileCause} (hhanded : handed.fault? = none)
    (h : t.obstacle? p = some cause) (e : Entry) : create handed p e t = (.error (.system cause handed), t) := by
  rw [create, bind_eq_of_ok (handOver_eq_ok hhanded)]
  simp [change, FileTree.create, h, Except.mapError]

theorem create_eq_error_of_entry {e e' : Entry} (hhanded : handed.fault? = none) (hway : t.obstacle? p = none)
    (h : t.entry? p = some e') : create handed p e t = (.error (.system .occupied handed), t) := by
  rw [create, bind_eq_of_ok (handOver_eq_ok hhanded)]
  simp [change, FileTree.create, hway, h, Except.mapError]

/-! ### Writing -/

theorem fill_eq_ok {bytes : List UInt8} {text : Text} (h : Utf8.encode text = .ok bytes) :
    fill p text t = (.ok (), t.put p (.file bytes)) := by
  simp only [fill, h]

/-- A file for a text that has no bytes stays empty. -/
theorem exists_fill_eq_error {text : Text} (h : text.isScalar = false) :
    ∃ f, fill p text t = (.error f, t.put p (.file [])) := by
  cases hencode : Utf8.encode text with
  | ok bytes => simp [(Utf8.encode_eq_ok_iff.mp hencode).1] at h
  | error f => exact ⟨.loneSurrogate f, by simp only [fill, hencode]⟩

theorem writeText_eq_fill (htext : p.fault? = none) (hway : t.writeObstacle? p = none) (text : Text) :
    writeText p text t = fill p text t := by
  rw [writeText, bind_eq_of_ok (handOver_eq_ok htext)]
  exact bind_eq_of_ok (a := ()) (by simp only [look, hway]) _

theorem exists_writeText_eq_error (h : p.fault? ≠ none ∨ t.writeObstacle? p ≠ none) (text : Text) :
    ∃ f, writeText p text t = (.error f, t) := by
  cases htext : p.fault? with
  | some f => exact ⟨_, by rw [writeText, bind_eq_of_error (handOver_eq_error htext)]⟩
  | none =>
    obtain ⟨cause, hcause⟩ := Option.ne_none_iff_exists'.mp (h.resolve_left (not_not_intro htext))
    refine ⟨.system cause p, ?_⟩
    rw [writeText, bind_eq_of_ok (handOver_eq_ok htext), bind_eq_of_error]
    simp only [look, hcause]

theorem move_eq_ok {source target : Path} (hhanded : handed.fault? = none) (htarget : target.fault? = none)
    (h : t.move source target = .ok t') : move handed source target t = (.ok (), t') := by
  rw [move, bind_eq_of_ok (handOver_eq_ok hhanded), bind_eq_of_ok (handOver_eq_ok htarget)]
  simp only [change, h, Except.mapError]

theorem exists_move_eq_error (handed source : Path) {target : Path}
    (h : target.fault? ≠ none ∨ t.writeObstacle? target ≠ none) :
    ∃ f, move handed source target t = (.error f, t) := by
  unfold move
  cases hhanded : handed.fault? with
  | some f => exact ⟨_, bind_eq_of_error (handOver_eq_error hhanded) _⟩
  | none =>
    rw [bind_eq_of_ok (handOver_eq_ok hhanded)]
    cases htarget : target.fault? with
    | some f => exact ⟨_, bind_eq_of_error (handOver_eq_error htarget) _⟩
    | none =>
      obtain ⟨cause, hmove⟩ :=
        FileTree.exists_move_eq_error source (h.resolve_left (not_not_intro htarget))
      refine ⟨.replacing cause handed target, ?_⟩
      rw [bind_eq_of_ok (handOver_eq_ok htarget)]
      simp only [change, hmove, Except.mapError]

end FileAction

end PromptTemplate
