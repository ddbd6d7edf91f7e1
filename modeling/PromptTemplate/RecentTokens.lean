import PromptTemplate.File.Tree
import PromptTemplate.Json.Printer
import PromptTemplate.Json.Reader

/-!
# Recent tokens

The tokens used last, the latest first, at most a given number of them, in a JSON file. Adding a
token moves it to the front. The file is written by way of a temporary file beside it.
-/

namespace PromptTemplate

structure RecentTokens where
  path : Path
  limit : Nat
deriving DecidableEq

namespace RecentTokens

/-- A store with a positive limit. -/
def open? (path : Path) (limit : Int) : Except Fault RecentTokens :=
  if limit ≤ 0 then .error .limitNotPositive else .ok ⟨path, limit.toNat⟩

def defaultLimit : Int := 10

/-- The texts of a list; other items are passed over. -/
def textsOf (items : List Data) : List Text :=
  items.filterMap fun d => match d with
    | .text t => some t
    | _ => none

/-- The tokens in data: a mapping that may have a list of tokens. -/
def ofData? : Data → Option (List Text)
  | .map members =>
    match Table.get? members "tokens" with
    | none => some []
    | some (.list items) => some (textsOf items)
    | some _ => none
  | _ => none

/-- The tokens in the text of a file. -/
def ofText (path : Path) (text : Text) : Except Fault (List Text) :=
  match Json.read text with
  | .error .malformed => .error (.store path)
  | .error (.tooLong digits) => .error (.value (.tooLong digits))
  | .error .tooDeep => .error (.value .tooDeep)
  | .ok d =>
    match ofData? d with
    | some tokens => .ok tokens
    | none => .error (.store path)

/-- The text of a file that holds tokens. -/
def toText (tokens : List Text) : Text :=
  Json.write .compact (.object [("tokens", .texts tokens)])

/-- All tokens in the file; none if there is no file. -/
def read (r : RecentTokens) : FileAction (List Text) := do
  if ← FileAction.has r.path then
    let text ← FileAction.readText r.path
    FileAction.look fun _ => ofText r.path text
  else pure []

/-- The path of the temporary file. -/
def temporary (r : RecentTokens) : Path := r.path.withName (r.path.name ++ Text.ofString ".tmp")

def write (r : RecentTokens) (tokens : List Text) : FileAction Unit := do
  FileAction.makeDirectories r.path.parent
  if r.path.name.isEmpty then FileAction.fail (.nameless r.path)
  else
    FileAction.writeText r.temporary (toText tokens)
    FileAction.move r.temporary r.temporary r.path

/-- The tokens within the limit. -/
def list (r : RecentTokens) : FileAction (List Text) := do
  let tokens ← r.read
  pure (tokens.take r.limit)

/-- The tokens after one more use. -/
def updated (limit : Nat) (token : Text) (tokens : List Text) : List Text :=
  (token :: tokens.filter (· ≠ token)).take limit

/-- Move a token to the front. -/
def add (r : RecentTokens) (token : Text) : FileAction (List Text) := do
  let tokens ← r.read
  let tokens := updated r.limit token tokens
  r.write tokens
  pure tokens

def clear (r : RecentTokens) : FileAction Unit := r.write []

end RecentTokens

end PromptTemplate
