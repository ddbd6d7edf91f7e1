import PromptTemplate.File.Tree
import PromptTemplate.Json.Reader
import PromptTemplate.Snapshot.Reader
import PromptTemplate.Yaml.Value

/-!
# Snapshot files

A snapshot is kept as JSON or, if the suffix of its file says so, as YAML.
-/

namespace PromptTemplate

/-- The data of a YAML text, with faults as those of a file. -/
def yamlData (doc : Document) (path : Path) (text : Text) : Except Fault Data :=
  match Yaml.read text with
  | .ok d => .ok d
  | .error .malformed => .error (.malformed doc .yaml path)
  | .error (.value f) => .error (.value f)

/-- The data of a JSON text, with faults as those of a file. -/
def jsonData (doc : Document) (path : Path) (text : Text) : Except Fault Data :=
  match Json.read text with
  | .ok d => .ok d
  | .error .malformed => .error (.malformed doc .json path)
  | .error (.tooLong digits) => .error (.value (.tooLong digits))
  | .error .tooDeep => .error (.value .tooDeep)

/-- The text of a file that must be there. -/
def documentText (doc : Document) (path : Path) : FileAction Text := fun t =>
  match FileAction.readText path t with
  | (.error (.system .missing _), t) => (.error (.notFound doc path), t)
  | r => r

namespace Snapshot

/-- Whether a file holds YAML. -/
def isYaml (path : Path) : Bool := path.suffix.lower = ".yaml" || path.suffix.lower = ".yml"

/-- The snapshot that data holds. -/
def ofRaw (source : Text) (d : Data) : Except Fault Snapshot :=
  match ofData? d with
  | some s => .ok s
  | none => .error (.schema .snapshot source)

/-- The snapshot that the text of a file holds. -/
def ofText (path : Path) (text : Text) : Except Fault Snapshot := do
  let d ← if isYaml path then yamlData .snapshot path text else jsonData .snapshot path text
  if d.isMapping then ofRaw path.toText d else .error (.notMapping .snapshot path)

/-- Read a snapshot from a file. -/
def load (path : Path) : FileAction Snapshot := do
  let text ← documentText .snapshot path
  FileAction.look fun _ => ofText path text

end Snapshot

end PromptTemplate
