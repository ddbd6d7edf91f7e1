import PromptTemplate.Proofs.RecentTokens.Recency

/-!
# What a failure leaves behind

A store writes beside its path and then moves the text into place. Such a write is refused before any file
is touched, or it stops half way, or it is done (`WriteResult`). It stops half way where a directory stands at
the path and where a token has no bytes, and then the file under the temporary name stays. So after any calls a
call that fails leaves the files as they were, but for that one (`act_run_files`, `clear_leaves_temporary`).
-/

namespace PromptTemplate.RecentTokens

variable {r : RecentTokens} {t : FileTree} {ts : List Text}

/-! ### The way to the temporary file -/

/-- The temporary file can be written: the store has a name, the file system takes the path of the temporary file, no
file is on the way to it, and no directory stands in its place or will stand there when the way is made. -/
structure ReachesTemporary (r : RecentTokens) (t : FileTree) : Prop where
  name : r.path.name ≠ []
  fit : r.temporary.IsFit
  way : ∀ a ∈ r.path.ancestors, t.file? a = none
  free : t.entry? r.temporary ≠ some .directory
  apart : ∀ a ∈ r.path.ancestors, a.normal ≠ r.temporary.normal

instance (r : RecentTokens) (t : FileTree) : Decidable (r.ReachesTemporary t) :=
  decidable_of_iff (r.path.name ≠ [] ∧ r.temporary.IsFit ∧ (∀ a ∈ r.path.ancestors, t.file? a = none) ∧
      t.entry? r.temporary ≠ some .directory ∧ ∀ a ∈ r.path.ancestors, a.normal ≠ r.temporary.normal)
    ⟨fun ⟨name, fit, way, free, apart⟩ => ⟨name, fit, way, free, apart⟩,
      fun ⟨name, fit, way, free, apart⟩ => ⟨name, fit, way, free, apart⟩⟩

/-- A directory stands at the path of the store, or will stand there when the way is made. -/
def IsBarred (r : RecentTokens) (t : FileTree) : Prop :=
  t.entry? r.path = some .directory ∨ ∃ a ∈ r.path.ancestors, a.normal = r.path.normal

instance (r : RecentTokens) (t : FileTree) : Decidable (r.IsBarred t) :=
  inferInstanceAs (Decidable (_ ∨ _))

/-- A write stops when the temporary file is there. -/
def LeavesTemporary (r : RecentTokens) (t : FileTree) (ts : List Text) : Prop :=
  r.ReachesTemporary t ∧ (r.IsBarred t ∨ ∃ x ∈ ts, x.isScalar = false)

instance (r : RecentTokens) (t : FileTree) (ts : List Text) : Decidable (r.LeavesTemporary t ts) :=
  inferInstanceAs (Decidable (_ ∧ _))

/-- What the temporary file holds when tokens are written to it: nothing if they have no bytes. -/
def encoded (ts : List Text) : List UInt8 := (Utf8.encode (toText ts)).toOption.getD []

/-- Tokens have bytes, or one of them has a lone surrogate and so has the text of the file. -/
theorem encoded_cases (ts : List Text) :
    (Utf8.encode (toText ts) = .ok (encoded ts) ∧ ∀ x ∈ ts, x.isScalar = true) ∨
      (toText ts).isScalar = false ∧ encoded ts = [] ∧ ∃ x ∈ ts, x.isScalar = false := by
  cases hencode : Utf8.encode (toText ts) with
  | ok bytes =>
    left
    have hencoded : encoded ts = bytes := by
      rw [encoded, hencode]
      rfl
    exact ⟨by rw [hencoded], isScalar_toText_iff.mp (Utf8.encode_eq_ok_iff.mp hencode).1⟩
  | error f =>
    right
    have hlone : (toText ts).isScalar = false := by
      by_contra htext
      rw [Utf8.encode_eq_ok_iff.mpr ⟨by simpa using htext, rfl⟩] at hencode
      cases hencode
    refine ⟨hlone, by rw [encoded, hencode]; rfl, ?_⟩
    have hnot : ¬ ∀ x ∈ ts, x.isScalar = true := fun hall => by simp [isScalar_toText hall] at hlone
    push Not at hnot
    simpa using hnot

/-! ### How a write ends -/

/-- How a write ends, with all files after it. -/
inductive WriteResult (r : RecentTokens) (t : FileTree) (ts : List Text) :
    Except Fault Unit × FileTree → Prop
  | refused {f : Fault} {t' : FileTree} (hreach : ¬ r.ReachesTemporary t)
      (hfiles : ∀ q, t'.file? q = t.file? q) : WriteResult r t ts (.error f, t')
  | stopped {f : Fault} {t' : FileTree} (hleaves : r.LeavesTemporary t ts)
      (hfiles : ∀ q, t'.file? q =
        if q.normal = r.temporary.normal then some (encoded ts) else t.file? q) :
      WriteResult r t ts (.error f, t')
  | done {t' : FileTree} (hreach : r.ReachesTemporary t) (hleaves : ¬ r.LeavesTemporary t ts)
      (hfiles : ∀ q, t'.file? q =
        if q.normal = r.path.normal then some (encoded ts)
        else if q.normal = r.temporary.normal then none else t.file? q) :
      WriteResult r t ts (.ok (), t')

theorem writeResult_of_not_reaches (hreach : ¬ r.ReachesTemporary t) : WriteResult r t ts (r.write ts t) := by
  have hresult := FileAction.makeDirectories_result t r.path.parent
  rw [write]
  generalize hmake : FileAction.makeDirectories r.path.parent t = result at hresult
  cases hresult with
  | refused _ hfiles =>
    rw [FileAction.bind_eq_of_error hmake]
    exact .refused hreach hfiles
  | @made t₁ hadmits hmade =>
    have hfiles := hmade.file?_eq hadmits
    rw [FileAction.bind_eq_of_ok hmake]
    by_cases hname : r.path.name = []
    · rw [if_pos (by simp [hname])]
      exact .refused hreach hfiles
    · have hway := hadmits.way
      rw [← Path.ancestors_eq_way_parent (names_ne_nil_of_name hname)] at hway
      -- the temporary file could be opened only if it were reached
      have hstop : r.temporary.fault? ≠ none ∨ t₁.writeObstacle? r.temporary ≠ none := by
        rw [← not_and_or]
        rintro ⟨htext, hopen⟩
        obtain ⟨hlooked, hfree⟩ := FileTree.writeObstacle?_eq_none_iff.mp hopen
        rw [ne_eq, entry?_eq_directory_iff (names_ne_nil_of_name hname) hmade, not_or] at hfree
        exact hreach ⟨hname, ⟨htext, (FileTree.obstacle?_eq_none_iff.mp hlooked).2⟩, hway, hfree.1,
          fun a ha hn => hfree.2 ⟨a, ha, hn⟩⟩
      obtain ⟨f, hwrite⟩ := FileAction.exists_writeText_eq_error hstop (toText ts)
      rw [if_neg (by simpa using hname), FileAction.bind_eq_of_error hwrite]
      exact .refused hreach hfiles

theorem writeResult_of_reaches (hreach : r.ReachesTemporary t) : WriteResult r t ts (r.write ts t) := by
  have hnames := names_ne_nil_of_name hreach.name
  have hadmits : t.Admits r.path.parent :=
    admits_parent hnames hreach.fit fun a ha => FileTree.file?_eq_none_iff.mp (hreach.way a ha)
  obtain ⟨t₁, hmake, hmade⟩ := FileAction.exists_makeDirectories_eq_ok hadmits
  have hdirectory := entry?_eq_directory_iff hnames hmade
  have hsame := hmade.file?_eq hadmits
  have hway : ∀ a ∈ r.path.ancestors, t₁.entry? a = some .directory ∧ a.normal ≠ r.temporary.normal :=
    fun a ha => ⟨(hdirectory a).mpr (.inr ⟨a, ha, rfl⟩), hreach.apart a ha⟩
  have hfree := entry?_ne_directory hnames hmade hreach.free hreach.apart
  have hput := fun bytes q => FileTree.file?_put (FileTree.isStart_eq_false hfree) t₁ q bytes
  have hbarred : t₁.entry? r.path = some .directory ↔ r.IsBarred t := hdirectory r.path
  rcases encoded_cases ts with ⟨hencode, hscalar⟩ | ⟨hlone, hencoded, htoken⟩
  · by_cases hdir : t₁.entry? r.path = some .directory
    · obtain ⟨f, hwrite⟩ :=
        exists_write_eq_error_of_barred hreach.name hreach.fit hmake hway hfree hencode hdir
      rw [hwrite]
      exact .stopped ⟨hreach, .inl (hbarred.mp hdir)⟩ fun q => by rw [hput, hsame]
    · obtain ⟨t₂, hwrite, hentries₂⟩ :=
        exists_write_eq_ok_of_way hreach.name hreach.fit hmake hway hfree hencode hdir
      rw [hwrite]
      refine .done hreach (fun hleaves => ?_) fun q => ?_
      · rcases hleaves.2 with hbar | ⟨x, hx, hx'⟩
        · exact hdir (hbarred.mpr hbar)
        · simp [hscalar x hx] at hx'
      · rw [← hsame, FileTree.file?, hentries₂]
        split_ifs <;> rfl
  · obtain ⟨f, hwrite⟩ := exists_write_eq_error_of_lone hreach.name hreach.fit hmake hway hfree hlone
    rw [hwrite]
    exact .stopped ⟨hreach, .inr htoken⟩ fun q => by rw [hput, hsame, hencoded]

/-- **How a write ends** is known from the tree and the tokens. -/
theorem write_result (r : RecentTokens) (t : FileTree) (ts : List Text) : WriteResult r t ts (r.write ts t) := by
  by_cases hreach : r.ReachesTemporary t
  · exact writeResult_of_reaches hreach
  · exact writeResult_of_not_reaches hreach

/-! ### Calls -/

/-- What is asked of a store: to be opened with some limit, or used. -/
inductive Call where
  | openWith (limit : Int)
  | use (u : Use)
deriving DecidableEq

namespace Call

/-- One call: its answer, if it is one that answers, and the store and the tree after it. A store that cannot
be opened stays open as it was. -/
def act (c : Call) (st : RecentTokens × FileTree) :
    Except Fault (Option (List Text)) × (RecentTokens × FileTree) :=
  match c with
  | openWith limit =>
    match open? st.1.path limit with
    | .ok r => (.ok none, (r, st.2))
    | .error f => (.error f, st)
  | use u => u.act st

/-- The store and the tree after many calls, whether they failed or not. -/
def run (history : List Call) (st : RecentTokens × FileTree) : RecentTokens × FileTree :=
  history.foldl (fun st c => (c.act st).2) st

/-- The tokens that a call goes on to write: none if it does not write or could not read the file. -/
def written? (c : Call) (st : RecentTokens × FileTree) : Option (List Text) :=
  match c with
  | use (.add token) => (st.1.read st.2).1.toOption.map (updated st.1.limit token)
  | use .clear => some []
  | openWith _ | use .list | use .reopen => none

/-- What a call leaves in the temporary file, if it stops when that is there. -/
def leftover? (c : Call) (st : RecentTokens × FileTree) : Option (List UInt8) :=
  match c.written? st with
  | some ts => if st.1.LeavesTemporary st.2 ts then some (encoded ts) else none
  | none => none

end Call

theorem read_snd (r : RecentTokens) (t : FileTree) : (r.read t).2 = t := by
  refine FileAction.bind_snd_eq rfl fun there => ?_
  cases there with
  | true => exact FileAction.bind_snd_eq rfl fun _ => rfl
  | false => rfl

theorem list_snd (r : RecentTokens) (t : FileTree) : (r.list t).2 = t :=
  FileAction.bind_snd_eq (read_snd r t) fun _ => rfl

theorem add_of_read_eq_error {f : Fault} (h : r.read t = (.error f, t)) (token : Text) :
    r.add token t = (.error f, t) := by
  rw [add, FileAction.bind_eq_of_error h]

theorem add_of_read_eq_ok {held : List Text} (h : r.read t = (.ok held, t)) (token : Text) :
    r.add token t =
      ((r.write (updated r.limit token held) t).1.map fun _ => updated r.limit token held,
        (r.write (updated r.limit token held) t).2) := by
  rw [add, FileAction.bind_eq_of_ok h]
  exact FileAction.bind_pure_eq _ _ t

/-- Opening a store changes at most its limit. -/
theorem act_openWith (limit : Int) (st : RecentTokens × FileTree) :
    ((Call.openWith limit).act st).2.2 = st.2 ∧ ((Call.openWith limit).act st).2.1.path = st.1.path := by
  unfold Call.act
  by_cases hlimit : limit ≤ 0
  · simp [open?, hlimit]
  · simp [open?, hlimit]

/-- A call that does not write leaves all as it was. -/
theorem act_of_written?_eq_none {c : Call} {st : RecentTokens × FileTree} (h : c.written? st = none) :
    (c.act st).2.2 = st.2 := by
  obtain ⟨r, t⟩ := st
  cases c with
  | openWith limit => exact (act_openWith limit (r, t)).1
  | use u =>
    cases u with
    | add token =>
      rcases hread : r.read t with ⟨f | held, t₁⟩
      · obtain rfl : t₁ = t := by rw [← read_snd r t, hread]
        simp only [Call.act, Use.act, add_of_read_eq_error hread]
      · simp [Call.written?, hread, Except.toOption] at h
    | list => exact list_snd r t
    | clear => cases h
    | reopen => exact (act_openWith r.limit (r, t)).1

/-- A call that writes ends as its write does. -/
theorem act_of_written?_eq_some {c : Call} {st : RecentTokens × FileTree} (h : c.written? st = some ts) :
    (c.act st).2.2 = (st.1.write ts st.2).2 ∧ (c.act st).1.isOk = (st.1.write ts st.2).1.isOk := by
  have hisOk : ∀ {α β : Type} (x : Except Fault α) (f : α → β), (x.map f).isOk = x.isOk := fun x _ => by
    cases x <;> rfl
  obtain ⟨r, t⟩ := st
  cases c with
  | openWith limit => cases h
  | use u =>
    cases u with
    | add token =>
      rcases hread : r.read t with ⟨f | held, t₁⟩
      · simp [Call.written?, hread, Except.toOption] at h
      · obtain rfl : t₁ = t := by rw [← read_snd r t, hread]
        obtain rfl : updated r.limit token held = ts := by
          simpa [Call.written?, hread, Except.toOption] using h
        simp only [Call.act, Use.act, add_of_read_eq_ok hread, hisOk, and_self]
    | clear =>
      obtain rfl : [] = ts := Option.some.inj h
      exact ⟨rfl, hisOk _ _⟩
    | list | reopen => cases h

theorem path_act (c : Call) (st : RecentTokens × FileTree) : (c.act st).2.1.path = st.1.path := by
  cases c with
  | openWith limit => exact (act_openWith limit st).2
  | use u =>
    cases u with
    | reopen => exact (act_openWith st.1.limit st).2
    | add _ | list | clear => rfl

theorem temporary_congr {r r' : RecentTokens} (h : r'.path = r.path) : r'.temporary = r.temporary := by
  rw [temporary, h, temporary]

/-! ### Files after a call -/

/-- **The files after one call.** -/
theorem act_files (c : Call) (st : RecentTokens × FileTree) :
    ((c.act st).1.isOk = true → c.leftover? st = none ∧ ∀ q, q.normal ≠ st.1.path.normal →
      (c.act st).2.2.file? q =
        if q.normal = st.1.temporary.normal ∧ (c.written? st).isSome then none else st.2.file? q) ∧
    ((c.act st).1.isOk = false → ∀ q, (c.act st).2.2.file? q =
      if q.normal = st.1.temporary.normal then (c.leftover? st).or (st.2.file? q) else st.2.file? q) := by
  cases hwritten : c.written? st with
  | none => simp [act_of_written?_eq_none hwritten, Call.leftover?, hwritten]
  | some ts =>
    obtain ⟨hafter, hisOk⟩ := act_of_written?_eq_some hwritten
    rw [hafter, hisOk, Call.leftover?, hwritten]
    generalize st.1.write ts st.2 = result, write_result st.1 st.2 ts = hresult
    cases hresult with
    | refused hreach hfiles =>
      have hleaves : ¬ st.1.LeavesTemporary st.2 ts := fun h => hreach h.1
      simp [Except.isOk, Except.toBool, hfiles, hleaves]
    | stopped hleaves hfiles => simp [Except.isOk, Except.toBool, hfiles, hleaves]
    | done hreach hleaves hfiles =>
      refine ⟨fun _ => ⟨if_neg hleaves, fun q hq => ?_⟩, fun h => by cases h⟩
      simp [hfiles, hq]

theorem act_files_elsewhere (c : Call) (st : RecentTokens × FileTree) {q : Path}
    (hpath : q.normal ≠ st.1.path.normal) (htemporary : q.normal ≠ st.1.temporary.normal) :
    (c.act st).2.2.file? q = st.2.file? q := by
  obtain ⟨hok, herror⟩ := act_files c st
  cases hact : (c.act st).1.isOk with
  | true => rw [(hok hact).2 q hpath, if_neg fun h => htemporary h.1]
  | false => rw [herror hact q, if_neg htemporary]

/-! ### Whole runs -/

theorem run_append_singleton (history : List Call) (c : Call) (st : RecentTokens × FileTree) :
    Call.run (history ++ [c]) st = (c.act (Call.run history st)).2 := by
  rw [Call.run, List.foldl_append]
  rfl

theorem path_run (history : List Call) (st : RecentTokens × FileTree) :
    (Call.run history st).1.path = st.1.path := by
  induction history using List.reverseRecOn with
  | nil => rfl
  | append_singleton history c ih =>
    rw [run_append_singleton, path_act]
    exact ih

/-- Calls leave every file alone that has neither the name of the store nor the temporary name. -/
theorem run_files_elsewhere (history : List Call) (st : RecentTokens × FileTree) {q : Path}
    (hpath : q.normal ≠ st.1.path.normal) (htemporary : q.normal ≠ st.1.temporary.normal) :
    (Call.run history st).2.file? q = st.2.file? q := by
  induction history using List.reverseRecOn with
  | nil => rfl
  | append_singleton history c ih =>
    have hsame := path_run history st
    rw [run_append_singleton, act_files_elsewhere c _ (by rwa [hsame]) (by rwa [temporary_congr hsame])]
    exact ih

/-- **A call that fails leaves the files as they were, but for the temporary one.** After any calls, a call
changes files at most in two places, the store's own and the temporary one. One that succeeds leaves no file in
the temporary place, if it writes. One that fails changes nothing, unless it stops with the temporary file
written: that is left then, and no call that stops so succeeds. -/
theorem act_run_files (r : RecentTokens) (t : FileTree) (history : List Call) (c : Call) :
    let st := Call.run history (r, t)
    let after := (c.act st).2.2
    (∀ q, q.normal ≠ r.path.normal → q.normal ≠ r.temporary.normal → after.file? q = t.file? q) ∧
      ((c.act st).1.isOk = true → c.leftover? st = none ∧ ∀ q, q.normal ≠ r.path.normal → after.file? q =
        if q.normal = r.temporary.normal ∧ (c.written? st).isSome then none else st.2.file? q) ∧
      ((c.act st).1.isOk = false → ∀ q, after.file? q =
        if q.normal = r.temporary.normal then (c.leftover? st).or (st.2.file? q) else st.2.file? q) := by
  intro st after
  have hpath : st.1.path = r.path := path_run history (r, t)
  have htemporary : st.1.temporary = r.temporary := temporary_congr hpath
  have hfiles := act_files c st
  rw [hpath, htemporary] at hfiles
  refine ⟨fun q hq hq' => ?_, hfiles⟩
  rw [act_files_elsewhere c st (by rwa [hpath]) (by rwa [htemporary])]
  exact run_files_elsewhere history (r, t) hq hq'

/-- A file that is not JSON stops an addition before any file is touched, and clearing the store touches only
that file. -/
theorem act_run_files_malformed :
    let r : RecentTokens := ⟨Path.ofText "r.json", 3⟩
    let t := FileTree.ofEntries [(r.path, .file [0x5B]), (Path.ofText "notes", .file [0x61])]
    let st := Call.run [.openWith 2] (r, t)
    ((Call.use (.add "a")).act st).1.isOk = false ∧
      (∀ q, ((Call.use (.add "a")).act st).2.2.file? q = st.2.file? q) ∧
      ((Call.use .clear).act st).1.isOk = true ∧
      ((Call.use .clear).act st).2.2.file? (Path.ofText "notes") = some [0x61] ∧
      ((Call.use .clear).act st).2.2.file? r.temporary = none := by
  intro r t st
  have hfails : ((Call.use (.add "a")).act st).1.isOk = false := by decide +kernel
  have hclears : ((Call.use .clear).act st).1.isOk = true := by decide +kernel
  have hnothing : (Call.use (.add "a")).leftover? st = none := by decide +kernel
  have hadd := act_run_files r t [.openWith 2] (.use (.add "a"))
  have hclear := act_run_files r t [.openWith 2] (.use .clear)
  refine ⟨hfails, fun q => ?_, hclears, ?_, ?_⟩
  · rw [hadd.2.2 hfails q, hnothing, Option.none_or, ite_self]
  · rw [hclear.1 (Path.ofText "notes") (by decide +kernel) (by decide +kernel)]
    decide +kernel
  · rw [(hclear.2.1 hclears).2 r.temporary (by decide +kernel)]
    decide +kernel

/-- Clearing a store whose path is a directory fails and leaves a file under the temporary name, and a file
that stood under that name is gone when the store is cleared. -/
theorem clear_leaves_temporary :
    let r : RecentTokens := ⟨Path.ofText "recent.json", 10⟩
    let t := FileTree.ofEntries [(r.path, .directory)]
    let t' := FileTree.ofEntries [(r.temporary, .file [0x61])]
    ((Call.use .clear).act (r, t)).1.isOk = false ∧ t.file? r.temporary = none ∧
      ((Call.use .clear).act (r, t)).2.2.file? r.temporary = some (encoded []) ∧
      ((Call.use .clear).act (r, t')).1.isOk = true ∧ t'.file? r.temporary = some [0x61] ∧
      ((Call.use .clear).act (r, t')).2.2.file? r.temporary = none := by
  decide +kernel

end PromptTemplate.RecentTokens
