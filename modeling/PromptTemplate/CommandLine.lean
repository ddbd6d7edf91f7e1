import PromptTemplate.Catalog
import PromptTemplate.File.Atomic
import PromptTemplate.Prompt
import PromptTemplate.RecentTokens
import PromptTemplate.Report
import PromptTemplate.Settings
import PromptTemplate.Template.File

/-!
# The command line

Four commands work on the file tree they are started in: `validate` and `resolve` a template, list
the `tokens` of a snapshot, and keep the `recent` tokens. A command ends with code 0, with 1 if it
could not do its work, and with 2 if the template is not valid or the command line is wrong. What no
part of a command is prepared for ends it too, with code 1, and is shown as it comes.
-/

namespace PromptTemplate

/-- What a command leaves behind besides files. -/
structure Console where
  out : Text := []
  err : Text := []

/-- The state while a command runs. -/
structure Session where
  tree : FileTree
  console : Console := {}

/-- How a command is ended. -/
inductive Ending where
  | exit (code : Nat)
  /-- A fault that the command is not prepared for. -/
  | uncaught (f : Fault)

namespace Ending

/-- The exit code. -/
def code : Ending → Nat
  | exit code => code
  | uncaught _ => 1

def fault? : Ending → Option Fault
  | exit _ => none
  | uncaught f => some f

end Ending

/-- Work of a command; it may end the command. -/
def Run (α : Type) : Type := Session → Except Ending α × Session

namespace Run

variable {α : Type}

/-- Nothing is done after the end. -/
instance : Monad Run where
  pure a := fun s => (.ok a, s)
  bind first next := fun s =>
    match first s with
    | (.ok a, s) => next a s
    | (.error ending, s) => (.error ending, s)

def stop (ending : Ending) : Run α := fun s => (.error ending, s)

def exit (code : Nat) : Run α := stop (.exit code)

/-- A terminal escape at the head of a text. -/
def terminalEscape? : Text → Option Text
  | .char '\x1b' :: .char '[' :: t =>
    let isParameter (c : CodePoint) := c.isDigit || c = .char ';' || c = .char '?'
    match t.dropWhile isParameter with
    | c :: _ =>
      if c.isLetter then some (.char '\x1b' :: .char '[' :: t.takeWhile isParameter ++ [c])
      else none
    | [] => none
  | _ => none

/-- A text without terminal escapes. -/
def plain (t : Text) : Text := (t.cut terminalEscape? id).render fun _ => []

/-- A text with its lone surrogates written as escapes. -/
def withoutSurrogates (t : Text) : Text :=
  t.flatMap fun c => if c.isSurrogate then Text.ofString "\\u" ++ Numeral.hex 4 c.toNat else [c]

/-- Print a line. A line that has no bytes is a fault. -/
def print (line : Text) : Run Unit := fun s =>
  let text := plain (line ++ [.char '\n'])
  match Utf8.encode text with
  | .ok _ => (.ok (), { s with console := { s.console with out := s.console.out ++ text } })
  | .error f => (.error (.uncaught (.loneSurrogate f)), s)

/-- Print a line for errors. -/
def printError (line : Text) : Run Unit := fun s =>
  let text := withoutSurrogates (plain (line ++ [.char '\n']))
  (.ok (), { s with console := { s.console with err := s.console.err ++ text } })

/-- Work on the files. -/
def attempt (work : FileAction α) : Run (Except Fault α) := fun s =>
  let (r, tree) := work s.tree
  (.ok r, { s with tree })

/-- Say what went wrong and end the command. -/
def failWith (say : Text → Run Unit) (what : Text) (f : Fault) : Run α := do
  say (what ++ f.message)
  exit 1

/-- Work whose refusals are reported. -/
def orRefuse (work : FileAction α) : Run α := do
  match ← attempt work with
  | .ok a => pure a
  | .error f => if f.isRefusal then failWith print "ERROR: " f else stop (.uncaught f)

/-- Work whose refusals and failures of the file system are reported. -/
def orReport (work : FileAction α) : Run α := do
  match ← attempt work with
  | .ok a => pure a
  | .error f =>
    if f.isRefusal || f.isSystem then failWith print "ERROR: " f else stop (.uncaught f)

/-- Writing whose failures in the file system are reported. -/
def orFail (say : Text → Run Unit) (what : Text) (work : FileAction α) : Run α := do
  match ← attempt work with
  | .ok a => pure a
  | .error f => if f.isSystem then failWith say what f else stop (.uncaught f)

end Run

/-- The files that a template command works on. -/
structure Inputs where
  template : Path
  snapshot : Path
  settings : Option Path
  /-- Leave bare tokens alone, whatever the settings say. -/
  noBareTokens : Bool

inductive Command where
  | validate (inputs : Inputs) (report : Option Path)
  | resolve (inputs : Inputs) (out : Option Path) (metadata : Bool) (mode : Text)
  | tokens (snapshot : Path) (query : Option Text)
  | recent (store : Path) (add : Option Text) (clear : Bool) (settings : Option Path)

namespace Command

/-! ### Reading a command line -/

/-- The options of a command, by what they take. -/
structure Grammar where
  /-- The path of something that is no directory. -/
  files : List Text := []
  /-- Any path. -/
  paths : List Text := []
  /-- Any text. -/
  texts : List Text := []
  /-- Nothing. -/
  flags : List Text := []

/-- The names of the options that take a value. -/
def Grammar.valued (g : Grammar) : List Text := g.files ++ g.paths ++ g.texts

/-- The options of a command line with their values, the last first. -/
def options (g : Grammar) : List (Text × Text) → List Text → Option (List (Text × Text))
  | found, [] => some found
  | found, arg :: rest =>
    let name := arg.takeWhile (· ≠ .char '=')
    if g.flags.contains arg then options g ((arg, []) :: found) rest
    else if g.valued.contains arg then
      match rest with
      | value :: rest => options g ((arg, value) :: found) rest
      | [] => none
    else if g.valued.contains name then
      options g ((name, arg.drop (name.length + 1)) :: found) rest
    else none

/-- The value of an option, the last one if there are several. -/
def value? (found : List (Text × Text)) (name : Text) : Option Text :=
  (found.find? fun o => o.1 = name).map Prod.snd

def path? (found : List (Text × Text)) (name : Text) : Option Path :=
  (value? found name).map Path.ofText

def isSet (found : List (Text × Text)) (name : Text) : Bool := (value? found name).isSome

/-- Why no command is run. -/
inductive Stop where
  /-- The command line is wrong. -/
  | usage
  | uncaught (f : Fault)

/-- Look at the value of an option before a command is run: a path must be one, and where a file is
wanted no directory may stand there. A path that is too long leads nowhere. -/
def checkValue (t : FileTree) (g : Grammar) (name value : Text) : Except Stop Unit :=
  if g.files.contains name || g.paths.contains name then
    match Path.textFault? value with
    | some .tooLong => .ok ()
    | some f => .error (.uncaught (.ofPath (Path.ofText value) f))
    | none =>
      if g.files.contains name && !value.isEmpty &&
          t.find (Path.ofText value) matches .ok .directory then .error .usage
      else .ok ()
  else .ok ()

/-- Look at all values, in the order in which the options first appear. -/
def checkValues (t : FileTree) (g : Grammar) (found : List (Text × Text)) : Except Stop Unit :=
  ((found.reverse.map Prod.fst).eraseDups).forM fun name =>
    checkValue t g name ((value? found name).getD [])

def inputs? (found : List (Text × Text)) : Option Inputs := do
  some {
    template := ← path? found "--template"
    snapshot := ← path? found "--snapshot"
    settings := path? found "--settings"
    noBareTokens := isSet found "--no-bare-tokens" }

/-- The commands: the name, the options, and what the values given for them ask for, nothing if one is
missing. -/
def commands : List (Text × Grammar × (List (Text × Text) → Option Command)) := [
  ("validate",
    { files := ["--template", "--snapshot"], paths := ["--settings", "--report"],
      flags := ["--no-bare-tokens"] },
    fun found => do some (.validate (← inputs? found) (path? found "--report"))),
  ("resolve",
    { files := ["--template", "--snapshot"], paths := ["--settings", "--out"],
      texts := ["--validation-mode"], flags := ["--no-bare-tokens", "--metadata"] },
    fun found => do
      some (.resolve (← inputs? found) (path? found "--out") (isSet found "--metadata")
        ((value? found "--validation-mode").getD "error"))),
  ("tokens",
    { files := ["--snapshot"], texts := ["--query"] },
    fun found => do some (.tokens (← path? found "--snapshot") (value? found "--query"))),
  ("recent",
    { files := ["--store"], paths := ["--settings"], texts := ["--add"], flags := ["--clear"] },
    fun found => do
      some (.recent (← path? found "--store") (value? found "--add") (isSet found "--clear")
        (path? found "--settings")))]

/-- The command that a command line asks for. -/
def ofArguments (t : FileTree) : List Text → Except Stop Command
  | [] => .error .usage
  | name :: args =>
    match commands.find? fun c => c.1 = name with
    | none => .error .usage
    | some (_, g, command?) =>
      match options g [] args with
      | none => .error .usage
      | some found => do
        checkValues t g found
        (command? found).elim (.error .usage) .ok

/-! ### Running a command -/

/-- What a template command has read. -/
structure Loaded where
  snapshot : Snapshot
  template : Text
  bare : Bool

def load (i : Inputs) : Run Loaded := do
  let settings ← Run.orRefuse (Settings.load i.settings)
  let snapshot ← Run.orRefuse (Snapshot.load i.snapshot)
  let template ← Run.orReport (Template.load i.template settings.maxTemplateChars)
  pure { snapshot, template, bare := settings.bareTokens && !i.noBareTokens }

/-- The command that lists the tokens of a snapshot. -/
def tokensCommand (snapshot : Path) : Text :=
  Text.ofString "artifact-tokens tokens --snapshot " ++ snapshot.toText

def runValidate (host : Host) (i : Inputs) (report : Option Path) : Run Unit := do
  let l ← load i
  let v := Validation.ofTemplate l.template l.snapshot l.bare
  Run.print (v.summary (tokensCommand i.snapshot))
  match report with
  | some p =>
    Run.orFail Run.print "ERROR: write report failed: " (File.writeJsonAtomic host p v.toData)
  | none => pure ()
  Run.exit (if v.isValid then 0 else 2)

/-- The warning about a prompt that was made from an invalid template. -/
def warning (errors : Nat) : Text :=
  Text.ofString "WARNING(validation): " ++ Numeral.ofNat errors ++
    Text.ofString " invalid token(s) resolved as placeholders (mode=warn)."

def showPrompt (host : Host) (prompt : Text) (out : Option Path) : Run Unit :=
  match out with
  | none => Run.print prompt
  | some p => do
    Run.orFail Run.printError "ERROR: write output failed: " (File.writeAtomic host p prompt)
    Run.print (Text.ofString "INFO: wrote prompt to " ++ p.toText)

def runResolve (host : Host) (i : Inputs) (out : Option Path) (metadata : Bool) (mode : Text) :
    Run Unit := do
  match ValidationMode.named? (Text.strip mode.lower) with
  | none =>
    Run.print "ERROR: --validation-mode must be one of: error, warn, off."
    Run.exit 1
  | some mode =>
    let l ← load i
    match Prompt.build l.template l.snapshot mode l.bare with
    | .error (.invalid v) =>
      Run.printError "ERROR: template has invalid tokens"
      Run.printError (v.summary (tokensCommand i.snapshot))
      Run.exit 2
    | .error (.unencodable f) => Run.stop (.uncaught (.loneSurrogate f))
    | .ok p =>
      match p.validation with
      | some v => if v.isValid then pure () else Run.printError (warning v.errors.length)
      | none => pure ()
      showPrompt host p.text out
      if metadata then
        let summary := Template.resolutionSummary p.emptyTokens p.missingTokens
        if out.isNone then Run.printError summary else Run.print summary
      Run.exit 0

def runTokens (snapshot : Path) (query : Option Text) : Run Unit := do
  let s ← Run.orRefuse (Snapshot.load snapshot)
  let c := (Catalog.ofSnapshot s).filter? query
  Run.print (Json.write .indented c.toData)
  Run.exit 0

/-- What a use of the store shows. -/
def recentWork (r : RecentTokens) (add : Option Text) (clear : Bool) : FileAction (List Text) :=
  if clear then do
    r.clear
    pure []
  else
    match add with
    | some token => r.add token
    | none => r.list

def printAll : List Text → Run Unit
  | [] => pure ()
  | t :: ts => do
    Run.print t
    printAll ts

def runRecent (store : Path) (add : Option Text) (clear : Bool) (settings : Option Path) :
    Run Unit := do
  if add.isSome && clear then
    Run.print "ERROR: --add and --clear cannot be used together."
    Run.exit 1
  else
    let s ← Run.orRefuse (Settings.load settings)
    let r ← Run.orRefuse (FileAction.look fun _ => RecentTokens.open? store s.recentLimit)
    let tokens ← Run.orReport (recentWork r add clear)
    if tokens.isEmpty then Run.print "recent: none"
    printAll tokens
    Run.exit 0

def run (host : Host) : Command → Run Unit
  | validate inputs report => runValidate host inputs report
  | resolve inputs out metadata mode => runResolve host inputs out metadata mode
  | tokens snapshot query => runTokens snapshot query
  | recent store add clear settings => runRecent store add clear settings

end Command

/-- How a command ended. -/
structure Outcome where
  exitCode : Nat
  console : Console
  tree : FileTree
  /-- What ended it, if it was not prepared for that. -/
  uncaught : Option Fault := none

namespace CommandLine

/-- Run the command that a command line asks for in a file tree. -/
def run (host : Host) (args : List Text) (t : FileTree) : Outcome :=
  match Command.ofArguments t args with
  | .error .usage => { exitCode := 2, console := { err := Text.ofString "Usage error.\n" }, tree := t }
  | .error (.uncaught f) => { exitCode := 1, console := {}, tree := t, uncaught := some f }
  | .ok c =>
    match c.run host { tree := t } with
    | (.ok (), s) => { exitCode := 0, console := s.console, tree := s.tree }
    | (.error ending, s) =>
      { exitCode := ending.code, console := s.console, tree := s.tree, uncaught := ending.fault? }

end CommandLine

end PromptTemplate
