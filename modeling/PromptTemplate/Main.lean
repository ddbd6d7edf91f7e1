import PromptTemplate.CommandLine

/-!
# The program

Loads what stands at the paths that a command line mentions into a file tree, runs the command, and
carries out what it changed.
-/

namespace PromptTemplate.Main

/-- Read what stands at a path, if anything does. -/
def loadEntry (p : Path) : IO (Option Entry) := do
  match p.toText.toString? with
  | none => return none
  | some name =>
    try
      let bytes ← IO.FS.readBinFile name
      return some (.file bytes.toList)
    catch
      | .inappropriateType .. => return some .directory
      | _ => return none

/-- The paths that an argument may mean, with the places where files beside them are written. -/
def mentioned (arg : Text) : List Path :=
  let value := (arg.dropWhile (· ≠ .char '=')).drop 1
  [arg, value, value ++ Text.ofString ".tmp", arg ++ Text.ofString ".tmp"].map Path.ofText

/-- Add to a tree what stands at a path and on the way to it. -/
def loadPath (t : FileTree) (p : Path) : IO FileTree :=
  (p.ancestors ++ [p]).foldlM
    (fun t q => do
      if (t.entry? q).isSome || !t.isDirectory q.parent then return t
      else
        match ← loadEntry q with
        | some e => return t.put q e
        | none => return t) t

def load (args : List Text) : IO FileTree := (args.flatMap mentioned).foldlM loadPath []

/-- Write one entry. A file is written beside its place and then moved there. -/
def storeEntry (e : Path × Entry) : IO Unit := do
  match e.1.toText.toString?, e.2 with
  | some name, .directory => IO.FS.createDirAll name
  | some name, .file content =>
    let temporary := name ++ ".part"
    IO.FS.writeBinFile temporary content.toByteArray
    IO.FS.rename temporary name
  | none, _ => return ()

/-- Carry out the changes from one tree to another. -/
def store (before after : FileTree) : IO Unit := do
  for e in after do
    if !before.contains e then storeEntry e
  for e in before do
    if (after.entry? e.1).isNone then
      match e.1.toText.toString? with
      | some name => IO.FS.removeFile name
      | none => return ()

/-- Draw a part of a name. -/
def draw : IO (Option Draw) := do
  let points ← (List.range 8).mapM fun _ => do
    return Draw.characters.getD (← IO.rand 0 (Draw.characters.length - 1)) default
  return Draw.ofText? points

/-- The system as it is found. -/
def host : IO Host := do
  let home := (← IO.getEnv "PWD").getD "/"
  let draws ← (List.range 100).mapM fun _ => draw
  return { home := Path.ofText home, draws := draws.filterMap id, room := 900 }

end PromptTemplate.Main

open PromptTemplate in
def main (args : List String) : IO UInt32 := do
  let args := args.map Text.ofString
  let t ← Main.load args
  let outcome := CommandLine.run (← Main.host) args t
  IO.print ((outcome.console.out.toString?).getD "")
  IO.eprint ((outcome.console.err.toString?).getD "")
  match outcome.uncaught with
  | some f => IO.eprintln ((f.message.toString?).getD "")
  | none => pure ()
  Main.store t outcome.tree
  return UInt32.ofNat outcome.exitCode
