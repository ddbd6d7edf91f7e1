import PromptTemplate.File.Fault
import PromptTemplate.Text.Lines

/-!
# File trees

The files and directories that a program sees, by the place that their paths lead to. A starting
point, the working directory or a root, is always a directory, and so are the directories above it.
A path that starts from a root is not known to lead to a place below the working directory.

A `FileAction` reads and changes a tree and may fail; what it had changed before it failed stays
changed. Work on a path begins with the path itself: if its text is no path, nothing is looked up.
-/

namespace PromptTemplate

inductive Entry where
  | file (content : List UInt8)
  | directory
deriving DecidableEq

abbrev FileTree := List (Path × Entry)

namespace FileTree

def entry? (t : FileTree) (p : Path) : Option Entry :=
  if p.isStart then some .directory else (t.find? fun e => e.1 = p.normal).map Prod.snd

def isDirectory (t : FileTree) (p : Path) : Bool := t.entry? p = some .directory

/-- Set the entry of a normal path. -/
def putAt (p : Path) (e : Entry) : FileTree → FileTree
  | [] => [(p, e)]
  | (q, f) :: t => if q = p then (p, e) :: t else (q, f) :: putAt p e t

/-- Set the entry of a path. -/
def put (p : Path) (e : Entry) (t : FileTree) : FileTree := t.putAt p.normal e

def erase (p : Path) (t : FileTree) : FileTree := t.filter fun e => e.1 ≠ p.normal

/-- The files with their contents. -/
def files (t : FileTree) : List (Path × List UInt8) :=
  t.filterMap fun e => match e.2 with
    | .file content => some (e.1, content)
    | .directory => none

/-! ### Looking up -/

/-- What bars the way at a place on it: its name is too long, it is missing, or it is no
directory. -/
def bar? (t : FileTree) (a : Path) : Option FileCause :=
  if Path.isLongName a.name then some .tooLong
  else
    match t.entry? a with
    | some .directory => none
    | some (.file _) => some .notDirectory
    | none => some .missing

/-- What keeps a path from being looked up: the way is barred, or the last name is too long. -/
def obstacle? (t : FileTree) (p : Path) : Option FileCause :=
  (p.ancestors.findSome? t.bar?).or (if Path.isLongName p.name then some .tooLong else none)

/-- What stands at a path. -/
def find (t : FileTree) (p : Path) : Except FileCause Entry :=
  match t.obstacle? p with
  | some cause => .error cause
  | none =>
    match t.entry? p with
    | some e => .ok e
    | none => .error .missing

/-- The content of the file at a path. -/
def content (t : FileTree) (p : Path) : Except FileCause (List UInt8) :=
  match t.find p with
  | .ok (.file content) => .ok content
  | .ok .directory => .error .isDirectory
  | .error cause => .error cause

/-- The bytes that are read at a path. -/
def read (t : FileTree) (p : Path) : Except Fault (List UInt8) :=
  match p.fault? with
  | some f => .error (.ofPath p f)
  | none => (t.content p).mapError (.system · p)

/-! ### Changes -/

/-- Make an entry where nothing stands. -/
def create (t : FileTree) (p : Path) (e : Entry) : Except FileCause FileTree :=
  match t.obstacle? p with
  | some cause => .error cause
  | none => if (t.entry? p).isSome then .error .occupied else .ok (t.put p e)

/-- Why a file cannot be written at a path. -/
def writeObstacle? (t : FileTree) (p : Path) : Option FileCause :=
  match t.obstacle? p with
  | some cause => some cause
  | none => if t.isDirectory p then some .isDirectory else none

/-- Whether the last name of a path is one that an entry can have. -/
def isEntryName (name : Text) : Bool := name ≠ [] && name ≠ Path.above

/-- Put a file in the place of another. -/
def move (t : FileTree) (source target : Path) : Except FileCause FileTree :=
  match t.content source with
  | .error cause => .error cause
  | .ok content =>
    match t.writeObstacle? target with
    | some .isDirectory => .error (if isEntryName target.name then .isDirectory else .busy)
    | some cause => .error cause
    | none =>
      if source.normal = target.normal then .ok t else .ok ((t.erase source).put target (.file content))

end FileTree

/-- Work on a file tree that may fail. -/
def FileAction (α : Type) : Type := FileTree → Except Fault α × FileTree

namespace FileAction

variable {α β : Type}

/-- The second piece of work is left out if the first fails. -/
instance : Monad FileAction where
  pure a := fun t => (.ok a, t)
  bind first next := fun t =>
    match first t with
    | (.ok a, t) => next a t
    | (.error f, t) => (.error f, t)

def fail (f : Fault) : FileAction α := fun t => (.error f, t)

/-- The result of work on a tree, and the tree after it. -/
def run (work : FileAction α) (t : FileTree) : Except Fault α × FileTree := work t

/-- Look at the tree without changing it. -/
def look (f : FileTree → Except Fault α) : FileAction α := fun t => (f t, t)

/-- Change the tree in one step, or leave it as it is. -/
def change (f : FileTree → Except Fault FileTree) : FileAction Unit := fun t =>
  match f t with
  | .ok t => (.ok (), t)
  | .error e => (.error e, t)

/-- Do something more if the work fails, and fail all the same. -/
def onFailure (work : FileAction α) (cleanUp : FileTree → FileTree) : FileAction α := fun t =>
  match work t with
  | (.ok a, t) => (.ok a, t)
  | (.error f, t) => (.error f, cleanUp t)

/-- Hand a path over to the file system. -/
def handOver (p : Path) : FileAction Unit := look fun _ =>
  match p.fault? with
  | some f => .error (.ofPath p f)
  | none => .ok ()

/-! ### Reading -/

/-- The text of the file at a path, its line ends read as line feeds. -/
def readText (p : Path) : FileAction Text := look fun t =>
  match t.read p with
  | .error f => .error f
  | .ok bytes =>
    match Utf8.decode bytes with
    | .error f => .error (.notUtf8 f)
    | .ok text => .ok (Text.withLineFeeds text)

/-- Whether anything stands at a path. Nothing does where a text is no path, but a path or a name that
is too long is a failure. -/
def has (p : Path) : FileAction Bool := look fun t =>
  match p.fault? with
  | some .tooLong => .error (.system .tooLong p)
  | some _ => .ok false
  | none =>
    match t.find p with
    | .ok _ => .ok true
    | .error .tooLong => .error (.system .tooLong p)
    | .error _ => .ok false

/-! ### Writing -/

/-- Make an entry where nothing stands. The path is handed over in a form of its own. -/
def create (handed p : Path) (e : Entry) : FileAction Unit := do
  handOver handed
  change fun t => (t.create p e).mapError (.system · handed)

/-- Write a text to a file that is open. Text that has no bytes leaves it empty. -/
def fill (p : Path) (text : Text) : FileAction Unit := fun t =>
  match Utf8.encode text with
  | .ok bytes => (.ok (), t.put p (.file bytes))
  | .error f => (.error (.loneSurrogate f), t.put p (.file []))

/-- Write a text to a path. The file is opened and emptied before the text is looked at. -/
def writeText (p : Path) (text : Text) : FileAction Unit := do
  handOver p
  FileAction.look fun t =>
    match t.writeObstacle? p with
    | some cause => .error (.system cause p)
    | none => .ok ()
  fill p text

/-- Put a file in the place of another. The path of the first is handed over in a form of its own. -/
def move (handed source target : Path) : FileAction Unit := do
  handOver handed
  handOver target
  change fun t => (t.move source target).mapError (.replacing · handed target)

/-- Make a directory, unless it is there. -/
def ensureDirectory (p : Path) : FileAction Unit := fun t =>
  match create p p .directory t with
  | (.error (.system .occupied q), t) =>
    if t.isDirectory p then (.ok (), t) else (.error (.system .occupied q), t)
  | r => r

/-- Make a directory, unless it is there, and at most `n` directories on the way to it, where they are
missing. -/
def makeWay : Nat → Path → FileAction Unit
  | 0, p => ensureDirectory p
  | n + 1, p => fun t =>
    match ensureDirectory p t with
    | (.error (.system .missing _), t) => (do makeWay n p.parent; ensureDirectory p : FileAction Unit) t
    | r => r

/-- Make the directory at a path and those on the way to it, where they are missing. Those that are
made stay if one of them cannot be made. -/
def makeDirectories (p : Path) : FileAction Unit := makeWay p.names.length p

end FileAction

/-- The tree of given entries, with the directories they stand in. -/
def FileTree.ofEntries (entries : List (Path × Entry)) : FileTree :=
  entries.foldl (fun t e => ((FileAction.makeDirectories e.1.parent).run t).2.put e.1 e.2) []

end PromptTemplate
