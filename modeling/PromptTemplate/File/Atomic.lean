import PromptTemplate.File.Tree

/-!
# Atomic writes

A text is first written to a temporary file beside the target, which then takes the target's place.
So the target holds either all of the new text or what it held before. Part of the name of the
temporary file is drawn by the system, which is asked for it by its path from a root.
-/

namespace PromptTemplate

/-- The characters that are drawn. -/
def Draw.characters : Text := "abcdefghijklmnopqrstuvwxyz0123456789_"

/-- The part of a temporary name that is drawn: eight characters. -/
structure Draw where
  text : Text
  length_text : text.length = 8
  mem_text : ∀ c ∈ text, c ∈ Draw.characters
deriving DecidableEq

def Draw.ofText? (t : Text) : Option Draw :=
  if h : t.length = 8 ∧ ∀ c ∈ t, c ∈ Draw.characters then some ⟨t, h.1, h.2⟩ else none

/-- What a run takes from the system that it runs on. -/
structure Host where
  /-- The working directory. -/
  home : Path
  /-- What is drawn for the name of a temporary file, one after the other until a name is free. -/
  draws : List Draw
  /-- How many lists and objects may stand inside one another in data that is written. -/
  room : Nat

namespace File

/-- The name of a temporary file for a target. -/
def temporaryName (target : Path) (d : Draw) : Text :=
  target.name ++ [.char '.'] ++ d.text ++ Text.ofString ".tmp"

/-- The path of a temporary file beside a target. -/
def temporaryPath (target : Path) (d : Draw) : Path := target.withName (temporaryName target d)

/-- Make an empty temporary file under the first drawn name that is free. -/
def openTemporary (home target : Path) : List Draw → FileAction Path
  | [] => FileAction.fail .namesTaken
  | d :: ds => fun t =>
    let temporary := temporaryPath target d
    match FileAction.create (temporary.absolute home) temporary (.file []) t with
    | (.ok (), t) => (.ok temporary, t)
    | (.error (.system .occupied _), t) => openTemporary home target ds t
    | (.error f, t) => (.error f, t)

/-- Write a text to a temporary file and put that in the place of the target. It is removed if it
cannot take the place. -/
def replace (host : Host) (target : Path) (text : Text) : FileAction Unit := do
  let temporary ← openTemporary host.home target host.draws
  FileAction.fill temporary text
  (FileAction.move (temporary.absolute host.home) temporary target).onFailure
    (FileTree.erase temporary)

/-- Write a text to a path, all or nothing as far as the path is concerned. -/
def writeAtomic (host : Host) (target : Path) (text : Text) : FileAction Unit := do
  FileAction.makeDirectories target.parent
  replace host target text

/-- Data as an indented JSON text with sorted members. -/
def jsonText (room : Nat) (d : Data) : Except Fault Text :=
  (Json.dump room .indented d.sortKeys).mapError .unwritable

/-- Write data as JSON. The data is looked at when the directories are there. -/
def writeJsonAtomic (host : Host) (target : Path) (d : Data) : FileAction Unit := do
  FileAction.makeDirectories target.parent
  let text ← FileAction.look fun _ => jsonText host.room d
  replace host target text

end File

end PromptTemplate
