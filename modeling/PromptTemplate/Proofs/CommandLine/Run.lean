import PromptTemplate.CommandLine
import PromptTemplate.Proofs.File.Document
import PromptTemplate.Proofs.Text.Scalar

/-!
# The steps of a command

A step of a command prints, works on the files or ends the command. Printing leaves the files alone and fails on
a line without bytes only (`print_result`, `isScalar_plain`). Work on the files is done, or the command ends with
code 1 and the files as the work left them (`orExit_of_error`). Loading what a template command needs changes no
file, and it gets that far just if all inputs are there and the template is within the limit (`load_result`).
-/

namespace PromptTemplate

open Text

/-! ### Texts for a terminal -/

namespace Run

/-- An escape stands at the head of the text in which it is found. -/
theorem anchored_terminalEscape? : Anchored terminalEscape? id := by
  intro t a h
  unfold terminalEscape? at h
  split at h
  · rename_i u
    dsimp only at h
    split at h
    · rename_i c v hdrop
      split_ifs at h
      cases h
      refine ⟨by simp, v, ?_⟩
      simp only [id, List.append_assoc, List.cons_append, List.nil_append, ← hdrop,
        List.takeWhile_append_dropWhile]
    · cases h
  · cases h

/-- A text without lone surrogates has none when its escapes are left out. -/
theorem isScalar_plain {t : Text} (h : t.isScalar = true) : (plain t).isScalar = true := by
  obtain ⟨hlead, hrest⟩ := isScalar_of_cut anchored_terminalEscape? h
  exact isScalar_render.mpr ⟨hlead, fun p hp => ⟨rfl, hrest p hp⟩⟩

/-! ### Steps -/

variable {α β : Type} {s s' : Session} {t : FileTree} {c : Console}

theorem bind_eq_of_ok {first : Run α} {a : α} (h : first s = (.ok a, s')) (next : α → Run β) :
    (first >>= next) s = next a s' := by
  simp only [bind, h]

theorem bind_eq_of_error {first : Run α} {ending : Ending} (h : first s = (.error ending, s'))
    (next : α → Run β) : (first >>= next) s = (.error ending, s') := by
  simp only [bind, h]

/-- A command has ended with code 1 and with the given files. -/
def FailsIn (t : FileTree) (r : Except Ending α × Session) : Prop :=
  ∃ ending s, r = (.error ending, s) ∧ ending.code = 1 ∧ s.tree = t

theorem failsIn_stop {ending : Ending} (h : ending.code = 1) (s : Session) :
    FailsIn s.tree ((stop ending : Run α) s) :=
  ⟨ending, s, rfl, h, rfl⟩

/-- Nothing is done after a failure. -/
theorem FailsIn.bind {first : Run α} (h : FailsIn t (first s)) (next : α → Run β) :
    FailsIn t ((first >>= next) s) := by
  obtain ⟨ending, s', hfirst, hcode, htree⟩ := h
  exact ⟨ending, s', bind_eq_of_error hfirst next, hcode, htree⟩

/-- A line with bytes is printed. -/
theorem exists_print_eq_ok {line : Text} (h : line.isScalar = true) (s : Session) :
    ∃ c, print line s = (.ok (), ⟨s.tree, c⟩) := by
  have hline : (plain (line ++ [.char '\n'])).isScalar = true := isScalar_plain (by simp [h])
  simp only [print, Utf8.encode_eq_ok_iff.mpr ⟨hline, rfl⟩]
  exact ⟨_, rfl⟩

/-- Printing leaves the files alone, and it ends the command on a line without bytes only. -/
theorem print_result (line : Text) (s : Session) :
    (∃ c, print line s = (.ok (), ⟨s.tree, c⟩)) ∨ line.isScalar = false ∧ FailsIn s.tree (print line s) := by
  cases hline : line.isScalar with
  | true => exact .inl (exists_print_eq_ok hline s)
  | false =>
    cases hencode : Utf8.encode (plain (line ++ [.char '\n'])) with
    | ok bytes => exact .inl ⟨_, by simp only [print, hencode]; rfl⟩
    | error f => exact .inr ⟨rfl, .uncaught (.loneSurrogate f), s, by simp only [print, hencode], rfl, rfl⟩

theorem exists_printError_eq_ok (line : Text) (s : Session) :
    ∃ c, printError line s = (.ok (), ⟨s.tree, c⟩) := ⟨_, rfl⟩

/-- Saying something leaves the files alone and goes on, or ends the command with code 1. -/
def Says (say : Text → Run Unit) : Prop :=
  ∀ line s, (∃ c, say line s = (.ok (), ⟨s.tree, c⟩)) ∨ FailsIn s.tree (say line s)

theorem says_print : Says print := fun line s => (print_result line s).imp_right And.right

theorem says_printError : Says printError := fun line s => .inl (exists_printError_eq_ok line s)

theorem failsIn_failWith {say : Text → Run Unit} (hsay : Says say) (what : Text) (f : Fault) (s : Session) :
    FailsIn s.tree ((failWith say what f : Run α) s) := by
  rcases hsay (what ++ f.message) s with ⟨c, h⟩ | h
  · rw [failWith, bind_eq_of_ok h]
    exact failsIn_stop rfl ⟨s.tree, c⟩
  · exact h.bind _

/-- Work on the files that ends the command if it fails, and says why for some faults. -/
def orExit (tells : Fault → Bool) (say : Text → Run Unit) (what : Text) (work : FileAction α) : Run α := do
  match ← attempt work with
  | .ok a => pure a
  | .error f => if tells f then failWith say what f else stop (.uncaught f)

theorem orRefuse_eq (work : FileAction α) : orRefuse work = orExit Fault.isRefusal print "ERROR: " work := rfl

theorem orReport_eq (work : FileAction α) :
    orReport work = orExit (fun f => f.isRefusal || f.isSystem) print "ERROR: " work := rfl

theorem orFail_eq (say : Text → Run Unit) (what : Text) (work : FileAction α) :
    orFail say what work = orExit Fault.isSystem say what work := rfl

section OrExit

variable {tells : Fault → Bool} {say : Text → Run Unit} {what : Text} {work : FileAction α}

theorem orExit_of_ok {a : α} (h : work s.tree = (.ok a, t)) :
    orExit tells say what work s = (.ok a, ⟨t, s.console⟩) := by
  have hattempt : attempt work s = (.ok (.ok a), ⟨t, s.console⟩) := by
    simp only [attempt, h]
  rw [orExit, bind_eq_of_ok hattempt]
  rfl

theorem orExit_of_error (hsay : Says say) {f : Fault} (h : work s.tree = (.error f, t)) :
    FailsIn t (orExit tells say what work s) := by
  have hattempt : attempt work s = (.ok (.error f), ⟨t, s.console⟩) := by
    simp only [attempt, h]
  rw [orExit, bind_eq_of_ok hattempt]
  show FailsIn t ((if tells f then failWith say what f else stop (.uncaught f) : Run α) ⟨t, s.console⟩)
  split_ifs
  · exact failsIn_failWith hsay what f ⟨t, s.console⟩
  · exact failsIn_stop rfl ⟨t, s.console⟩

/-- Work that only reads gives a result, or ends the command with the files as they were. -/
theorem orExit_of_reading (hsay : Says say) (tells : Fault → Bool) (what : Text)
    (hsame : (work s.tree).2 = s.tree) :
    (∃ a, (work s.tree).1 = .ok a ∧ orExit tells say what work s = (.ok a, s)) ∨
      ∃ f, (work s.tree).1 = .error f ∧ FailsIn s.tree (orExit tells say what work s) := by
  cases hresult : (work s.tree).1 with
  | ok a => exact .inl ⟨a, rfl, orExit_of_ok (Prod.ext hresult hsame)⟩
  | error f => exact .inr ⟨f, rfl, orExit_of_error hsay (Prod.ext hresult hsame)⟩

end OrExit

end Run

/-! ### The inputs of a template command -/

namespace Command

variable {i : Inputs} {t : FileTree} {l l' : Loaded}

/-- The inputs are there: settings and a snapshot that can be loaded, and a template within the limit. -/
def Loads (i : Inputs) (t : FileTree) (l : Loaded) : Prop :=
  ∃ s, (Settings.load i.settings t).1 = .ok s ∧ (Snapshot.load i.snapshot t).1 = .ok l.snapshot ∧
    t.HoldsText i.template l.template ∧ (l.template.length : Int) ≤ s.maxTemplateChars ∧
    l.bare = (s.bareTokens && !i.noBareTokens)

/-- Inputs are loaded in one way. -/
theorem Loads.unique (h : Loads i t l) (h' : Loads i t l') : l = l' := by
  obtain ⟨s, hsettings, hsnapshot, htemplate, -, hbare⟩ := h
  obtain ⟨s', hsettings', hsnapshot', htemplate', -, hbare'⟩ := h'
  cases hsettings.symm.trans hsettings'
  have hsnapshots : l.snapshot = l'.snapshot := Except.ok.inj (hsnapshot.symm.trans hsnapshot')
  obtain ⟨snapshot, template, bare⟩ := l
  obtain ⟨snapshot', template', bare'⟩ := l'
  simp only at *
  rw [hsnapshots, htemplate.unique htemplate', hbare, hbare']

/-- **What loading the inputs comes to.** No file is changed, and the command goes on with the inputs if they are
there, and ends with code 1 if they are not. -/
theorem load_result (i : Inputs) (s : Session) :
    (∃ l, Loads i s.tree l ∧ load i s = (.ok l, s)) ∨
      (∀ l, ¬ Loads i s.tree l) ∧ Run.FailsIn s.tree (load i s) := by
  have hsays := Run.says_print
  rcases Run.orExit_of_reading hsays Fault.isRefusal "ERROR: " (Settings.load_snd i.settings s.tree) with
    ⟨settings, hsettings, hgo⟩ | ⟨f, hsettings, hstop⟩
  · rw [load, Run.orRefuse_eq, Run.bind_eq_of_ok hgo]
    rcases Run.orExit_of_reading hsays Fault.isRefusal "ERROR: " (Snapshot.load_snd i.snapshot s.tree) with
      ⟨snapshot, hsnapshot, hgo⟩ | ⟨f, hsnapshot, hstop⟩
    · rw [Run.orRefuse_eq, Run.bind_eq_of_ok hgo]
      by_cases htemplate : ∃ text, s.tree.HoldsText i.template text ∧
          (text.length : Int) ≤ settings.maxTemplateChars
      · obtain ⟨text, htext, hlimit⟩ := htemplate
        rw [Run.orReport_eq, Run.bind_eq_of_ok (Run.orExit_of_ok (Template.load_eq_ok htext hlimit))]
        exact .inl ⟨⟨snapshot, text, settings.bareTokens && !i.noBareTokens⟩,
          ⟨settings, hsettings, hsnapshot, htext, hlimit, rfl⟩, rfl⟩
      · obtain ⟨f, hload⟩ := Template.exists_load_eq_error fun text htext hlimit =>
          htemplate ⟨text, htext, hlimit⟩
        refine .inr ⟨fun l hl => ?_, (Run.orExit_of_error hsays hload).bind _⟩
        obtain ⟨settings', hsettings', -, htext, hlimit, -⟩ := hl
        cases hsettings.symm.trans hsettings'
        exact htemplate ⟨l.template, htext, hlimit⟩
    · refine .inr ⟨fun l hl => ?_, hstop.bind _⟩
      obtain ⟨_, -, hsnapshot', -⟩ := hl
      cases hsnapshot.symm.trans hsnapshot'
  · refine .inr ⟨fun l hl => ?_, hstop.bind _⟩
    obtain ⟨_, hsettings', -⟩ := hl
    cases hsettings.symm.trans hsettings'

end Command

end PromptTemplate
