import PromptTemplate.Proofs.CommandLine.Run
import PromptTemplate.Proofs.File.Atomic
import PromptTemplate.Proofs.Prompt

/-!
# The command that resolves a template

The command loads its inputs, makes a prompt and puts it out, and at every step it may end. `runResolve_result`
says how: with the prompt put out, with a template that is rejected, or failed with all files as they were. There
are two ways to fail too late (`Leaves`): the prompt has no bytes, which is known when a temporary file is there,
or the path has none, which is known when the prompt is in its place. So an invocation is all or nothing but for
these two (`run_resolve`, `run_resolve_leaves`), whatever the system draws for names.
-/

namespace PromptTemplate.Command

open Text

variable {host : Host} {i : Inputs} {out : Option Path} {mode : Text} {t t' : FileTree} {p : Prompt}

/-! ### What the command is asked for -/

/-- The prompt that is made from the inputs as the mode says. -/
def Builds (i : Inputs) (mode : Text) (t : FileTree) (p : Prompt) : Prop :=
  ∃ m l, ValidationMode.named? (Text.strip mode.lower) = some m ∧ Loads i t l ∧
    Prompt.build l.template l.snapshot m l.bare = .ok p

/-- The template is not valid and the mode asks for a valid one. -/
def IsRejected (i : Inputs) (mode : Text) (t : FileTree) : Prop :=
  ValidationMode.named? (Text.strip mode.lower) = some .error ∧
    ∃ l, Loads i t l ∧ (Validation.ofTemplate l.template l.snapshot l.bare).isValid = false

theorem Builds.not_isRejected (h : Builds i mode t p) : ¬ IsRejected i mode t := by
  rintro ⟨hmode', l', hload', hinvalid⟩
  obtain ⟨m, l, hmode, hload, hbuild⟩ := h
  cases hmode.symm.trans hmode'
  cases hload.unique hload'
  rw [Prompt.isValid_of_build hbuild rfl] at hinvalid
  cases hinvalid

/-! ### What it leaves -/

/-- The files after a text was put out: the one at the path that was given holds the text, and no other has
changed. -/
def PutsOut (t t' : FileTree) (out : Option Path) (text : Text) : Prop :=
  match out with
  | none => ∀ q, t'.file? q = t.file? q
  | some path => ∃ bytes, Utf8.encode text = .ok bytes ∧
    ∀ q, t'.file? q = if q.normal = path.normal then some bytes else t.file? q

/-- What is left where a text could not be put out as it should: the file, if its path cannot be announced, or an
empty file under a name drawn for it, if the text has no bytes. -/
inductive Leaves (host : Host) (t : FileTree) (out : Option Path) (text : Text) (t' : FileTree) : Prop
  | unannounced {path : Path} (hout : out = some path) (hpath : path.toText.isScalar = false)
      (hfiles : PutsOut t t' out text)
  | temporary {path : Path} {d : Draw} (hout : out = some path) (hlone : text.isScalar = false)
      (hd : d ∈ host.draws) (hfree : t.file? (File.temporaryPath path d) = none)
      (hfiles : ∀ q, t'.file? q =
        if q.normal = (File.temporaryPath path d).normal then some [] else t.file? q)

/-- A text that cannot be put out leaves the files alone, or leaves what it should not. -/
def Fails (host : Host) (t : FileTree) (out : Option Path) (text : Text) (t' : FileTree) : Prop :=
  (∀ q, t'.file? q = t.file? q) ∨ Leaves host t out text t'

theorem showPrompt_result (host : Host) (text : Text) (out : Option Path) (s : Session) :
    (∃ s', showPrompt host text out s = (.ok (), s') ∧ PutsOut s.tree s'.tree out text) ∨
      ∃ t', Run.FailsIn t' (showPrompt host text out s) ∧ Fails host s.tree out text t' := by
  cases out with
  | none =>
    rcases Run.says_print text s with ⟨c, h⟩ | h
    · exact .inl ⟨_, h, fun q => rfl⟩
    · exact .inr ⟨s.tree, h, .inl fun q => rfl⟩
  | some path =>
    rw [showPrompt, Run.orFail_eq]
    have hwrite := File.writeWith_result host s.tree path (.ok text)
    rw [← File.writeAtomic_eq_writeWith] at hwrite
    generalize hresult : File.writeAtomic host path text s.tree = r at hwrite
    cases hwrite with
    | kept _ _ hfiles => exact .inr ⟨_, (Run.orExit_of_error Run.says_printError hresult).bind _, .inl hfiles⟩
    | stopped hcontents hlone hplace hd hfree hfiles =>
      cases hcontents
      exact .inr ⟨_, (Run.orExit_of_error Run.says_printError hresult).bind _,
        .inr (.temporary rfl hlone hd hfree hfiles)⟩
    | done hcontents hneeds hencode hfiles =>
      cases hcontents
      rw [Run.bind_eq_of_ok (Run.orExit_of_ok hresult)]
      rcases Run.print_result (Text.ofString "INFO: wrote prompt to " ++ path.toText) ⟨_, s.console⟩ with
        ⟨c, h⟩ | ⟨hline, h⟩
      · exact .inl ⟨_, h, _, hencode, hfiles⟩
      · have hpath : path.toText.isScalar = false := by simpa using hline
        exact .inr ⟨_, h, .inr (.unannounced rfl hpath ⟨_, hencode, hfiles⟩)⟩

/-! ### How it ends -/

/-- How the command ends: its exit code and the files after it. -/
inductive ResolveResult (host : Host) (i : Inputs) (out : Option Path) (mode : Text) (t : FileTree) :
    Nat → FileTree → Prop
  | done {p : Prompt} {t' : FileTree} (hbuild : Builds i mode t p) (hfiles : PutsOut t t' out p.text) :
      ResolveResult host i out mode t 0 t'
  | rejected (h : IsRejected i mode t) : ResolveResult host i out mode t 2 t
  | failed {t' : FileTree} (hno : ¬ IsRejected i mode t) (hfiles : ∀ q, t'.file? q = t.file? q) :
      ResolveResult host i out mode t 1 t'
  | stopped {p : Prompt} {t' : FileTree} (hbuild : Builds i mode t p) (hleaves : Leaves host t out p.text t') :
      ResolveResult host i out mode t 1 t'

/-- What the exit code says about the files. -/
theorem ResolveResult.files {code : Nat} (h : ResolveResult host i out mode t code t') :
    (code = 0 → ∃ p, Builds i mode t p ∧ PutsOut t t' out p.text) ∧
      (code ≠ 0 → (∀ q, t'.file? q = t.file? q) ∨ ∃ p, Builds i mode t p ∧ Leaves host t out p.text t') ∧
      (code = 2 ↔ IsRejected i mode t) := by
  cases h with
  | done hbuild hfiles =>
    exact ⟨fun _ => ⟨_, hbuild, hfiles⟩, fun hcode => absurd rfl hcode,
      iff_of_false (by decide) hbuild.not_isRejected⟩
  | rejected hrejected => exact ⟨nofun, fun _ => .inl fun q => rfl, iff_of_true rfl hrejected⟩
  | failed hno hfiles => exact ⟨nofun, fun _ => .inl hfiles, iff_of_false (by decide) hno⟩
  | stopped hbuild hleaves =>
    exact ⟨nofun, fun _ => .inr ⟨_, hbuild, hleaves⟩, iff_of_false (by decide) hbuild.not_isRejected⟩

/-- A run has ended as it should. -/
def EndsAs (host : Host) (i : Inputs) (out : Option Path) (mode : Text) (t : FileTree)
    (r : Except Ending Unit × Session) : Prop :=
  ∃ ending s, r = (.error ending, s) ∧ ResolveResult host i out mode t ending.code s.tree

theorem endsAs_of_failsIn {r : Except Ending Unit × Session} (h : Run.FailsIn t' r)
    (hresult : ResolveResult host i out mode t 1 t') : EndsAs host i out mode t r := by
  obtain ⟨ending, s, hr, hcode, htree⟩ := h
  exact ⟨ending, s, hr, by rwa [hcode, htree]⟩

/-- What the command does with a prompt, once it has warned of what is not valid. -/
def finish (host : Host) (out : Option Path) (metadata : Bool) (p : Prompt) : Run Unit := do
  showPrompt host p.text out
  if metadata then
    let summary := Template.resolutionSummary p.emptyTokens p.missingTokens
    if out.isNone then Run.printError summary else Run.print summary
  Run.exit 0

theorem finish_result {s : Session} (host : Host) (hbuild : Builds i mode s.tree p) (out : Option Path)
    (metadata : Bool) : EndsAs host i out mode s.tree (finish host out metadata p s) := by
  rw [finish]
  rcases showPrompt_result host p.text out s with ⟨s', hshow, hfiles⟩ | ⟨t', hshow, hfiles⟩
  · rw [Run.bind_eq_of_ok hshow]
    -- the summary lists tokens of the grammar, so it is always printed
    obtain ⟨m, l, -, -, hprompt⟩ := id hbuild
    obtain ⟨c, hprint⟩ := Run.exists_print_eq_ok (Prompt.isScalar_summary hprompt) s'
    have hdone : ∀ c, ResolveResult host i out mode s.tree 0 (Session.mk s'.tree c).tree :=
      fun c => .done hbuild hfiles
    cases metadata with
    | false => exact ⟨.exit 0, s', rfl, hdone s'.console⟩
    | true =>
      cases hout : out.isNone with
      | true => exact ⟨.exit 0, _, rfl, hdone _⟩
      | false => exact ⟨.exit 0, _, Run.bind_eq_of_ok hprint _, hdone c⟩
  · refine endsAs_of_failsIn (hshow.bind _) ?_
    rcases hfiles with hfiles | hleaves
    · exact .failed hbuild.not_isRejected hfiles
    · exact .stopped hbuild hleaves

/-- **How the command ends** in any tree. -/
theorem runResolve_result (host : Host) (i : Inputs) (out : Option Path) (metadata : Bool) (mode : Text)
    (s : Session) : EndsAs host i out mode s.tree (runResolve host i out metadata mode s) := by
  rw [runResolve]
  cases hmode : ValidationMode.named? (Text.strip mode.lower) with
  | none =>
    have hno : ¬ IsRejected i mode s.tree := by
      rintro ⟨hmode', -⟩
      rw [hmode] at hmode'
      cases hmode'
    obtain ⟨c, h⟩ := Run.exists_print_eq_ok
      (isScalar_ofString "ERROR: --validation-mode must be one of: error, warn, off.") s
    exact ⟨.exit 1, _, Run.bind_eq_of_ok h _, .failed hno fun q => rfl⟩
  | some m =>
    dsimp only
    rcases load_result i s with ⟨l, hload, hgo⟩ | ⟨hmissing, hstop⟩
    · rw [Run.bind_eq_of_ok hgo]
      by_cases hrejected : m = .error ∧ (Validation.ofTemplate l.template l.snapshot l.bare).isValid = false
      · obtain ⟨rfl, hinvalid⟩ := hrejected
        rw [Prompt.build_of_not_isValid hinvalid]
        exact ⟨.exit 2, _, rfl, .rejected ⟨hmode, l, hload, hinvalid⟩⟩
      · have hvalid : m = .error → (Validation.ofTemplate l.template l.snapshot l.bare).isValid = true := by
          intro hm
          by_contra hinvalid
          exact hrejected ⟨hm, by simpa using hinvalid⟩
        rcases Prompt.build_of_isValid hvalid with ⟨f, hbuild⟩ | ⟨p, hbuild, -⟩
        · rw [hbuild]
          refine ⟨.uncaught (.loneSurrogate f), s, rfl, .failed ?_ fun q => rfl⟩
          rintro ⟨hmode', l', hload', hinvalid⟩
          cases hmode.symm.trans hmode'
          cases hload.unique hload'
          exact hrejected ⟨rfl, hinvalid⟩
        · have hbuilds : Builds i mode s.tree p := ⟨m, l, hmode, hload, hbuild⟩
          rw [hbuild]
          cases hvalidation : p.validation with
          | none =>
            simp only [hvalidation]
            exact finish_result host hbuilds out metadata
          | some v =>
            by_cases hv : v.isValid = true
            · simp only [hvalidation, if_pos hv]
              exact finish_result host hbuilds out metadata
            · obtain ⟨c, hwarn⟩ := Run.exists_printError_eq_ok (warning v.errors.length) s
              have hfinish := finish_result (s := ⟨s.tree, c⟩) host hbuilds out metadata
              simp only [hvalidation, if_neg hv, Run.bind_eq_of_ok hwarn]
              exact hfinish
    · have hno : ¬ IsRejected i mode s.tree := by
        rintro ⟨-, l, hload, -⟩
        exact hmissing l hload
      exact endsAs_of_failsIn (hstop.bind _) (.failed hno fun q => rfl)

/-! ### Invocations -/

/-- What a command line asks to be resolved, where it asks for that. -/
def Asks (t : FileTree) (args : List Text) (i : Inputs) (out : Option Path) (mode : Text) : Prop :=
  ∃ metadata, ofArguments t (Text.ofString "resolve" :: args) = .ok (.resolve i out metadata mode)

/-- Under its name the command line asks for this command. -/
theorem exists_resolve_of_ofArguments {args : List Text} {c : Command}
    (h : ofArguments t (Text.ofString "resolve" :: args) = .ok c) :
    ∃ i out metadata mode, c = .resolve i out metadata mode := by
  have hfind : commands.find? (fun c => c.1 = Text.ofString "resolve") = some _ := rfl
  simp only [ofArguments, hfind] at h
  split at h
  · cases h
  · rename_i found _
    generalize checkValues t _ found = checked at h
    cases checked with
    | error stop => cases h
    | ok =>
      cases hinputs : inputs? found with
      | none =>
        rw [hinputs] at h
        cases h
      | some i =>
        rw [hinputs] at h
        cases h
        exact ⟨i, _, _, _, rfl⟩

/-- **Resolving a template is all or nothing.** With exit code 0 the prompt is put out and no other file has
changed. With any other code no file has changed, unless the prompt has no bytes or was written to a path that has
none. The code is 2 just where the template is not valid and has to be. -/
theorem run_resolve (host : Host) {args : List Text}
    (h : ofArguments t (Text.ofString "resolve" :: args) ≠ .error .usage) :
    let o := CommandLine.run host (Text.ofString "resolve" :: args) t
    (o.exitCode = 0 → ∃ i out mode p, Asks t args i out mode ∧ Builds i mode t p ∧ PutsOut t o.tree out p.text) ∧
      (o.exitCode ≠ 0 → (∀ q, o.tree.file? q = t.file? q) ∨
        ∃ i out mode p, Asks t args i out mode ∧ Builds i mode t p ∧ Leaves host t out p.text o.tree) ∧
      (o.exitCode = 2 ↔ ∃ i out mode, Asks t args i out mode ∧ IsRejected i mode t) := by
  intro o
  cases hargs : ofArguments t (Text.ofString "resolve" :: args) with
  | error stop =>
    -- no command is run
    cases stop with
    | usage => exact absurd hargs h
    | uncaught f =>
      have ho : o.exitCode = 1 ∧ o.tree = t := by
        simp only [o, CommandLine.run, hargs, and_self]
      have hasks : ∀ i out mode, ¬ Asks t args i out mode := fun i out mode ⟨_, h'⟩ => by
        rw [hargs] at h'
        cases h'
      rw [ho.1, ho.2]
      exact ⟨nofun, fun _ => .inl fun _ => rfl,
        iff_of_false (by decide) fun ⟨i, out, mode, hask, _⟩ => hasks i out mode hask⟩
  | ok c =>
    obtain ⟨i, out, metadata, mode, rfl⟩ := exists_resolve_of_ofArguments hargs
    have hask : Asks t args i out mode := ⟨metadata, hargs⟩
    obtain ⟨ending, s', hrun, hresult⟩ := runResolve_result host i out metadata mode { tree := t }
    have ho : o.exitCode = ending.code ∧ o.tree = s'.tree := by
      have hcommand : (Command.resolve i out metadata mode).run host { tree := t } = (.error ending, s') := hrun
      simp only [o, CommandLine.run, hargs, hcommand, and_self]
    obtain ⟨hdone, hfailed, hrejected⟩ := hresult.files
    rw [ho.1, ho.2]
    refine ⟨fun hcode => ?_, fun hcode => ?_, fun hcode => ⟨i, out, mode, hask, hrejected.mp hcode⟩, ?_⟩
    · obtain ⟨p, hbuild, hfiles⟩ := hdone hcode
      exact ⟨i, out, mode, p, hask, hbuild, hfiles⟩
    · exact (hfailed hcode).imp_right fun ⟨p, hbuild, hleaves⟩ => ⟨i, out, mode, p, hask, hbuild, hleaves⟩
    · rintro ⟨i', out', mode', ⟨metadata', hargs'⟩, h'⟩
      cases hargs.symm.trans hargs'
      exact hrejected.mpr h'

/-- A template without tokens is written to the path that is given. -/
theorem run_resolve_out :
    let host : Host := ⟨Path.ofText "/w", [⟨"aaaaaaaa", by decide, by decide⟩], 100⟩
    let t := FileTree.ofEntries [(Path.ofText "t", .file [0x61]), (Path.ofText "s", .file [0x7B, 0x7D])]
    let args : List Text := ["--template", "t", "--snapshot", "s", "--out", "p"]
    let o := CommandLine.run host (Text.ofString "resolve" :: args) t
    o.exitCode = 0 ∧ o.tree.file? (Path.ofText "p") = some [0x61] ∧
      ∀ q, q.normal ≠ (Path.ofText "p").normal → o.tree.file? q = t.file? q := by
  intro host t args o
  have hargs : ofArguments t (Text.ofString "resolve" :: args) = .ok (.resolve
      ⟨Path.ofText "t", Path.ofText "s", none, false⟩ (some (Path.ofText "p")) false "error") := by rfl
  have husage : ofArguments t (Text.ofString "resolve" :: args) ≠ .error .usage := by
    rw [hargs]
    nofun
  have hcode : o.exitCode = 0 := by decide +kernel
  obtain ⟨i, out, mode, p, ⟨metadata, hargs'⟩, -, hfiles⟩ := (run_resolve host husage).1 hcode
  cases hargs.symm.trans hargs'
  obtain ⟨bytes, -, hfiles⟩ := hfiles
  refine ⟨hcode, by decide +kernel, fun q hq => ?_⟩
  rw [hfiles, if_neg hq]

/-- The two ways to leave a file behind. The path of the first prompt cannot be announced, and the second prompt, with
a lone surrogate in the value of a field, cannot be written. -/
theorem run_resolve_leaves :
    let host : Host := ⟨Path.ofText "/w", [⟨"aaaaaaaa", by decide, by decide⟩], 100⟩
    let snapshot (value : String) : List UInt8 :=
      (Text.ofString "\x7b\"fields\":[\x7b\"key\":\"k\",\"label\":\"K\",\"value\":\"" ++
        Text.ofString value ++ Text.ofString "\",\"sectionId\":\"s\"\x7d]\x7d").flatMap Utf8.encodePoint
    let tree (value : String) := FileTree.ofEntries [
      (Path.ofText "t.txt", .file ((Text.ofString "a{{field:k}}").flatMap Utf8.encodePoint)),
      (Path.ofText "s.json", .file (snapshot value))]
    let args (out : Text) : List Text :=
      ["resolve", "--template", "t.txt", "--snapshot", "s.json", "--out", out]
    let path := Path.ofText [.surrogate 0x480]
    let temporary := Path.ofText "p.aaaaaaaa.tmp"
    let unannounced := CommandLine.run host (args [.surrogate 0x480]) (tree "1")
    let stopped := CommandLine.run host (args "p") (tree "\\ud800")
    (unannounced.exitCode = 1 ∧ (tree "1").file? path = none ∧
      unannounced.tree.file? path = some [0x61, 0x31] ∧
      unannounced.uncaught.map Fault.message = some (Text.ofString
        "'utf-8' codec can't encode character '\\udc80' in position 22: surrogates not allowed")) ∧
      stopped.exitCode = 1 ∧ (tree "\\ud800").file? temporary = none ∧
        stopped.tree.file? temporary = some [] := by
  decide +kernel

end PromptTemplate.Command
