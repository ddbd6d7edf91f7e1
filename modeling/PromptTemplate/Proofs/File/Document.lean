import PromptTemplate.Proofs.File.Tree
import PromptTemplate.Settings
import PromptTemplate.Template.File

/-!
# Files that are loaded

Snapshots and settings are loaded in one way (`Loader`): the bytes of a file are decoded, its text is read as
data, the data must be a mapping, and a schema is laid over it. `Loader.load_result` says what comes of every
file, and `load_names_file` that a refusal gives the path of the file, but for the four faults that a loader does
not foresee (`Loader.Unforeseen`): a text that is no path, a barred way, bytes that are not UTF-8, and a value that
cannot be read. What is said of the last two does not depend on the path (`load_leaves_file_unnamed`).
-/

namespace PromptTemplate

/-! ### The data of a text -/

/-- The data of a text in a format. In JSON as in YAML, a value may be all that cannot be read. -/
def FileFormat.read : FileFormat → Text → Except Yaml.Fault Data
  | .yaml, text => Yaml.read text
  | .json, text =>
    match Json.read text with
    | .ok d => .ok d
    | .error .malformed => .error .malformed
    | .error (.tooLong digits) => .error (.value (.tooLong digits))
    | .error .tooDeep => .error (.value .tooDeep)

/-- A fault of a text as a fault of the file that holds it. -/
def Fault.ofReading (doc : Document) (format : FileFormat) (path : Path) : Yaml.Fault → Fault
  | .malformed => .malformed doc format path
  | .value f => .value f

theorem yamlData_eq (doc : Document) (path : Path) (text : Text) :
    yamlData doc path text = (FileFormat.yaml.read text).mapError (Fault.ofReading doc .yaml path) := by
  rw [yamlData, FileFormat.read]
  rcases Yaml.read text with (_ | f) | d <;> rfl

theorem jsonData_eq (doc : Document) (path : Path) (text : Text) :
    jsonData doc path text = (FileFormat.json.read text).mapError (Fault.ofReading doc .json path) := by
  rw [jsonData, FileFormat.read]
  rcases Json.read text with (_ | digits | _) | d <;> rfl

/-! ### Loaders -/

/-- What a loader knows about the files it loads. -/
structure Loader (α : Type) where
  document : Document
  format : Path → FileFormat
  /-- The data that counts, given what a file holds. -/
  root : Data → Data
  model? : Data → Option α

namespace Loader

variable {α : Type} {l : Loader α} {t : FileTree} {p : Path}

/-- The model that data holds. -/
def ofData (l : Loader α) (p : Path) (d : Data) : Except Fault α :=
  if (l.root d).isMapping then (l.model? (l.root d)).elim (.error (.schema l.document p.toText)) .ok
  else .error (.notMapping l.document p)

/-- The model that the text of a file holds. -/
def ofText (l : Loader α) (p : Path) (text : Text) : Except Fault α := do
  let d ← ((l.format p).read text).mapError (Fault.ofReading l.document (l.format p) p)
  l.ofData p d

def load (l : Loader α) (p : Path) : FileAction α := do
  let text ← documentText l.document p
  FileAction.look fun _ => l.ofText p text

end Loader

def Snapshot.loader : Loader Snapshot where
  document := .snapshot
  format p := if isYaml p then .yaml else .json
  root := id
  model? := ofData?

/-- An empty file is one that sets nothing. -/
def Settings.loader : Loader Settings where
  document := .settings
  format _ := .yaml
  root
    | .null => .map []
    | d => d
  model? := ofData?

theorem Snapshot.ofText_eq (p : Path) (text : Text) : ofText p text = loader.ofText p text := by
  have hdata : ∀ d, (if d.isMapping then ofRaw p.toText d else .error (.notMapping .snapshot p)) =
      loader.ofData p d := by
    intro d
    rw [Loader.ofData, ofRaw]
    show _ = if d.isMapping then (ofData? d).elim _ _ else _
    cases ofData? d <;> rfl
  rw [ofText, Loader.ofText, ← funext hdata]
  by_cases hyaml : isYaml p = true
  · simp only [loader, if_pos hyaml, yamlData_eq]
  · simp only [loader, if_neg hyaml, jsonData_eq]

theorem Snapshot.load_eq (p : Path) : Snapshot.load p = loader.load p := by
  rw [load, Loader.load, funext (ofText_eq p)]
  rfl

theorem Settings.ofText_eq (p : Path) (text : Text) : ofText p text = loader.ofText p text := by
  rw [ofText, Loader.ofText, yamlData_eq]
  apply congrArg
  funext d
  rw [Loader.ofData]
  cases d with
  | null =>
    dsimp only [loader]
    cases ofData? (.map []) <;> rfl
  | map members =>
    dsimp only [loader]
    cases ofData? (.map members) <;> rfl
  | other isMapping =>
    dsimp only [loader]
    cases isMapping with
    | false => rfl
    | true => cases ofData? (.other true) <;> rfl
  | bool | int | real | text | bytes | list => rfl

theorem Settings.load_eq (p : Path) : Settings.load (some p) = loader.load p := by
  rw [load, Loader.load, ← funext (ofText_eq p)]
  rfl

/-! ### What comes of a file -/

/-- The file at a path holds a text, which is given with line feeds. -/
def FileTree.HoldsText (t : FileTree) (p : Path) (text : Text) : Prop :=
  ∃ bytes raw, t.read p = .ok bytes ∧ Utf8.decode bytes = .ok raw ∧ text = raw.withLineFeeds

/-- What is found at a path: the path is none, nothing can be looked up there, the bytes of the file are no text, or
the file holds a text. -/
theorem FileTree.holdsText_cases (t : FileTree) (p : Path) :
    (∃ f, p.fault? = some f ∧ t.read p = .error (.ofPath p f)) ∨
      (∃ cause, p.fault? = none ∧ t.content p = .error cause ∧ t.read p = .error (.system cause p)) ∨
      (∃ bytes f, t.read p = .ok bytes ∧ Utf8.decode bytes = .error f) ∨ ∃ text, t.HoldsText p text := by
  cases hpath : p.fault? with
  | some f => exact .inl ⟨f, rfl, by rw [read, hpath]⟩
  | none =>
    right
    cases hcontent : t.content p with
    | error cause => exact .inl ⟨cause, rfl, rfl, by rw [read, hpath, hcontent]; rfl⟩
    | ok bytes =>
      have hread : t.read p = .ok bytes := read_eq_ok_iff.mpr ⟨hpath, hcontent⟩
      cases hdecode : Utf8.decode bytes with
      | error f => exact .inr (.inl ⟨bytes, f, hread, hdecode⟩)
      | ok raw => exact .inr (.inr ⟨raw.withLineFeeds, bytes, raw, hread, hdecode, rfl⟩)

/-- A file holds one text. -/
theorem FileTree.HoldsText.unique {t : FileTree} {p : Path} {text text' : Text} (h : t.HoldsText p text)
    (h' : t.HoldsText p text') : text = text' := by
  obtain ⟨bytes, raw, hread, hdecode, rfl⟩ := h
  obtain ⟨bytes', raw', hread', hdecode', rfl⟩ := h'
  cases hread.symm.trans hread'
  cases hdecode.symm.trans hdecode'
  rfl

section Text

variable {t : FileTree} {p : Path}

theorem documentText_eq_ok {text : Text} (h : t.HoldsText p text) (doc : Document) :
    documentText doc p t = (.ok text, t) := by
  obtain ⟨bytes, raw, hread, hdecode, rfl⟩ := h
  rw [documentText, FileAction.readText_eq_ok hread hdecode]

theorem documentText_eq_notFound (h : t.read p = .error (.system .missing p)) (doc : Document) :
    documentText doc p t = (.error (.notFound doc p), t) := by
  simp only [documentText, FileAction.readText, FileAction.look, h]

theorem documentText_eq_system {cause : FileCause} (h : t.read p = .error (.system cause p))
    (hcause : cause ≠ .missing) (doc : Document) :
    documentText doc p t = (.error (.system cause p), t) := by
  simp only [documentText, FileAction.readText, FileAction.look, h]
  cases cause with
  | missing => exact absurd rfl hcause
  | busy | occupied | notDirectory | isDirectory | tooLong => rfl

theorem documentText_eq_ofPath {f : PathFault} (h : t.read p = .error (.ofPath p f)) (doc : Document) :
    documentText doc p t = (.error (.ofPath p f), t) := by
  simp only [documentText, FileAction.readText, FileAction.look, h]
  cases f <;> rfl

theorem documentText_eq_notUtf8 {bytes : List UInt8} {f : Utf8.DecodeFault} (hread : t.read p = .ok bytes)
    (hdecode : Utf8.decode bytes = .error f) (doc : Document) :
    documentText doc p t = (.error (.notUtf8 f), t) := by
  simp only [documentText, FileAction.readText, FileAction.look, hread, hdecode]

end Text

namespace Loader

variable {α : Type} {l : Loader α} {t : FileTree} {p : Path}

/-- The faults that a loader lets through as they come. -/
inductive Unforeseen (l : Loader α) (t : FileTree) (p : Path) : Fault → Prop
  | noPath {f : PathFault} (hpath : p.fault? = some f) : Unforeseen l t p (.ofPath p f)
  | barred {cause : FileCause} (hpath : p.fault? = none) (hcontent : t.content p = .error cause)
      (hcause : cause ≠ .missing) : Unforeseen l t p (.system cause p)
  | notUtf8 {bytes : List UInt8} {f : Utf8.DecodeFault} (hread : t.read p = .ok bytes)
      (hdecode : Utf8.decode bytes = .error f) : Unforeseen l t p (.notUtf8 f)
  | value {text : Text} {f : Yaml.ValueFault} (htext : t.HoldsText p text)
      (hread : (l.format p).read text = .error (.value f)) : Unforeseen l t p (.value f)

/-- What comes of a file: a fault that is let through, a fault that the loader tells, or a model. -/
inductive Result (l : Loader α) (t : FileTree) (p : Path) : Except Fault α → Prop
  | unforeseen {f : Fault} (hf : l.Unforeseen t p f) : Result l t p (.error f)
  | notFound (hpath : p.fault? = none) (hcontent : t.content p = .error .missing) :
      Result l t p (.error (.notFound l.document p))
  | malformed {text : Text} (htext : t.HoldsText p text) (hread : (l.format p).read text = .error .malformed) :
      Result l t p (.error (.malformed l.document (l.format p) p))
  | notMapping {text : Text} {d : Data} (htext : t.HoldsText p text) (hread : (l.format p).read text = .ok d)
      (hroot : (l.root d).isMapping = false) : Result l t p (.error (.notMapping l.document p))
  | schema {text : Text} {d : Data} (htext : t.HoldsText p text) (hread : (l.format p).read text = .ok d)
      (hroot : (l.root d).isMapping = true) (hmodel : l.model? (l.root d) = none) :
      Result l t p (.error (.schema l.document p.toText))
  | loaded {text : Text} {d : Data} {a : α} (htext : t.HoldsText p text)
      (hread : (l.format p).read text = .ok d) (hroot : (l.root d).isMapping = true)
      (hmodel : l.model? (l.root d) = some a) : Result l t p (.ok a)

theorem load_of_holdsText {text : Text} (h : t.HoldsText p text) : l.load p t = (l.ofText p text, t) := by
  rw [load, FileAction.bind_eq_of_ok (documentText_eq_ok h l.document)]
  rfl

theorem load_of_documentText {f : Fault} (h : documentText l.document p t = (.error f, t)) :
    l.load p t = (.error f, t) := by
  rw [load, FileAction.bind_eq_of_error h]

/-- An unforeseen fault ends the loading. -/
theorem Unforeseen.load_eq {f : Fault} (h : l.Unforeseen t p f) : l.load p t = (.error f, t) := by
  cases h with
  | @noPath f hpath =>
    have hread : t.read p = .error (.ofPath p f) := by rw [FileTree.read, hpath]
    exact load_of_documentText (documentText_eq_ofPath hread l.document)
  | @barred cause hpath hcontent hcause =>
    have hread : t.read p = .error (.system cause p) := by rw [FileTree.read, hpath, hcontent]; rfl
    exact load_of_documentText (documentText_eq_system hread hcause l.document)
  | notUtf8 hread hdecode => exact load_of_documentText (documentText_eq_notUtf8 hread hdecode l.document)
  | value htext hread =>
    rw [load_of_holdsText htext, ofText, hread]
    rfl

theorem load_result (l : Loader α) (t : FileTree) (p : Path) :
    l.Result t p (l.load p t).1 ∧ (l.load p t).2 = t := by
  rcases t.holdsText_cases p with
    ⟨f, hpath, -⟩ | ⟨cause, hpath, hcontent, hread⟩ | ⟨bytes, f, hread, hdecode⟩ | ⟨text, htext⟩
  · rw [(Unforeseen.noPath hpath).load_eq]
    exact ⟨.unforeseen (.noPath hpath), rfl⟩
  · by_cases hcause : cause = .missing
    · subst hcause
      rw [load_of_documentText (documentText_eq_notFound hread l.document)]
      exact ⟨.notFound hpath hcontent, rfl⟩
    · rw [(Unforeseen.barred hpath hcontent hcause).load_eq]
      exact ⟨.unforeseen (.barred hpath hcontent hcause), rfl⟩
  · rw [(Unforeseen.notUtf8 hread hdecode).load_eq]
    exact ⟨.unforeseen (.notUtf8 hread hdecode), rfl⟩
  · rw [load_of_holdsText htext]
    refine ⟨?_, rfl⟩
    rw [ofText]
    cases hread : (l.format p).read text with
    | error f =>
      cases f with
      | malformed => exact .malformed htext hread
      | value f => exact .unforeseen (.value htext hread)
    | ok d =>
      show l.Result t p (l.ofData p d)
      rw [ofData]
      cases hroot : (l.root d).isMapping with
      | false => exact .notMapping htext hread hroot
      | true =>
        rw [if_pos rfl]
        cases hmodel : l.model? (l.root d) with
        | none => exact .schema htext hread hroot hmodel
        | some a => exact .loaded htext hread hroot hmodel

/-! ### Refusals give the path -/

/-- What a loader owes its caller: the tree as it was, a model of the data in the file, and a refusal that gives
the path, unless the fault is one that it lets through. -/
structure Answers (l : Loader α) (t : FileTree) (p : Path) (r : Except Fault α × FileTree) : Prop where
  tree : r.2 = t
  loaded : ∀ a, r.1 = .ok a →
    ∃ text d, t.HoldsText p text ∧ (l.format p).read text = .ok d ∧ l.model? (l.root d) = some a
  unforeseen : ∀ f, l.Unforeseen t p f → r.1 = .error f
  named : ∀ f, r.1 = .error f → ¬ l.Unforeseen t p f → f.isRefusal = true ∧ p.toText <:+: f.message

theorem load_answers (l : Loader α) (t : FileTree) (p : Path) : l.Answers t p (l.load p t) := by
  obtain ⟨hresult, htree⟩ := l.load_result t p
  refine ⟨htree, ?_, fun f hf => by rw [hf.load_eq], ?_⟩
  · intro a ha
    rw [ha] at hresult
    cases hresult with
    | loaded htext hread _ hmodel => exact ⟨_, _, htext, hread, hmodel⟩
  · intro f hf hforeseen
    rw [hf] at hresult
    cases hresult with
    | unforeseen hf => exact absurd hf hforeseen
    | notFound | malformed | notMapping | schema =>
      constructor
      · rfl
      · exact (List.suffix_append _ _).isInfix

end Loader

theorem Settings.pos_of_positive? {default n : Int} (hdefault : 0 < default) {member : Option Data}
    (h : Schema.withDefault default positive? member = some n) : 0 < n := by
  cases member with
  | none =>
    cases h
    exact hdefault
  | some d =>
    obtain ⟨-, hn⟩ := Option.filter_eq_some_iff.mp h
    simpa using hn

/-- The limits of settings are positive. -/
theorem Settings.limits_pos {d : Data} {s : Settings} (h : ofData? d = some s) :
    0 < s.maxTemplateChars ∧ 0 < s.recentLimit := by
  unfold ofData? at h
  split at h
  · simp only [Option.bind_eq_bind, Option.bind_eq_some_iff] at h
    obtain ⟨_, _, limit, hlimit, recent, hrecent, hs⟩ := h
    cases hs
    exact ⟨pos_of_positive? (by decide) hlimit, pos_of_positive? (by decide) hrecent⟩
  · cases h

/-- Settings are read without changing a file, also where no path is given for them. -/
theorem Settings.load_snd (p : Option Path) (t : FileTree) : (Settings.load p t).2 = t := by
  cases p with
  | none => rfl
  | some p =>
    rw [load_eq]
    exact (loader.load_answers t p).tree

theorem Snapshot.load_snd (p : Path) (t : FileTree) : (Snapshot.load p t).2 = t := by
  rw [load_eq]
  exact (loader.load_answers t p).tree

/-- Whatever a file holds, and if there is none, loading it gives a valid model or a refusal whose message has the
path in it. The faults that are let through are the exception. -/
theorem load_names_file (p : Path) (t : FileTree) :
    Snapshot.loader.Answers t p (Snapshot.load p t) ∧
      Settings.loader.Answers t p (Settings.load (some p) t) ∧
      ∀ s, (Settings.load (some p) t).1 = .ok s → 0 < s.maxTemplateChars ∧ 0 < s.recentLimit := by
  have hsettings := Settings.loader.load_answers t p
  rw [Snapshot.load_eq, Settings.load_eq]
  refine ⟨Snapshot.loader.load_answers t p, hsettings, ?_⟩
  intro s hs
  obtain ⟨_, _, _, _, hmodel⟩ := hsettings.loaded s hs
  exact Settings.limits_pos hmodel

/-- Of a byte that is no UTF-8, neither loader says in which file it is. -/
theorem load_leaves_file_unnamed :
    let p := Path.ofText "s.json"
    let t := FileTree.ofEntries [(p, .file [0xFF])]
    ∃ f, (Snapshot.load p t).1 = .error f ∧ (Settings.load (some p) t).1 = .error f ∧
      ¬ p.toText <:+: f.message := by
  intro p t
  have hread : t.read p = .ok [0xFF] := FileTree.read_eq_ok_iff.mpr ⟨by decide +kernel, by decide +kernel⟩
  have hdecode : ∃ f, Utf8.decode [0xFF] = .error f ∧ ¬ p.toText <:+: f.message :=
    ⟨_, rfl, by decide +kernel⟩
  obtain ⟨f, hf, hname⟩ := hdecode
  refine ⟨.notUtf8 f, ?_, ?_, hname⟩
  · rw [Snapshot.load_eq, (Loader.Unforeseen.notUtf8 hread hf).load_eq]
  · rw [Settings.load_eq, (Loader.Unforeseen.notUtf8 hread hf).load_eq]

/-! ### Templates -/

namespace Template

variable {t : FileTree} {p : Path} {limit : Int} {text : Text}

/-- A template is loaded if its file holds a text within the limit. -/
theorem load_eq_ok (htext : t.HoldsText p text) (hlimit : (text.length : Int) ≤ limit) :
    load p limit t = (.ok text, t) := by
  obtain ⟨bytes, raw, hread, hdecode, rfl⟩ := htext
  rw [load, FileAction.readText_eq_ok hread hdecode]
  exact if_neg (Int.not_lt.mpr hlimit)

/-- Any other template is refused, or its file cannot be read. -/
theorem exists_load_eq_error (h : ∀ text, t.HoldsText p text → ¬ (text.length : Int) ≤ limit) :
    ∃ f, load p limit t = (.error f, t) := by
  rcases t.holdsText_cases p with
    ⟨f, -, hread⟩ | ⟨cause, -, -, hread⟩ | ⟨bytes, f, hread, hdecode⟩ | ⟨text, htext⟩
  · refine ⟨.ofPath p f, ?_⟩
    simp only [load, FileAction.readText, FileAction.look, hread]
    cases f <;> rfl
  · exact ⟨.system cause p, by simp only [load, FileAction.readText, FileAction.look, hread]⟩
  · exact ⟨.templateNotUtf8 p, by simp only [load, FileAction.readText, FileAction.look, hread, hdecode]⟩
  · have hlong := h text htext
    obtain ⟨bytes, raw, hread, hdecode, rfl⟩ := htext
    refine ⟨.templateTooLong raw.withLineFeeds.length limit p, ?_⟩
    rw [load, FileAction.readText_eq_ok hread hdecode]
    exact if_pos (Int.not_le.mp hlong)

end Template

end PromptTemplate
