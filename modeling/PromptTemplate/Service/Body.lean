import PromptTemplate.Json.Encoding
import PromptTemplate.Prompt
import PromptTemplate.Service.Event
import PromptTemplate.Snapshot.Reader

/-!
# Request bodies

The schema of what a client sends: a template with a snapshot and what is to be done with it, or a
snapshot whose tokens are listed. Only what the schema names may be in a body.
-/

namespace PromptTemplate.Service

/-- The bytes of a body as an object. -/
def objectOf (body : List UInt8) (path : Text) : Except Fault Data :=
  match Json.readBytes body with
  | .error .malformed => .error .notJson
  | .error (.tooLong _) | .error .tooDeep => .error (.internal path)
  | .ok d => if d.isMapping then .ok d else .error .notObject

/-- What is asked for a template. -/
inductive Wish where
  | validation
  | resolution (withTokens : Bool)
  | prompt (mode : ValidationMode)
deriving DecidableEq

/-- The body of a request about a template. -/
structure TemplateBody where
  template : Text
  snapshot : Snapshot
  /-- Whether bare tokens are field tokens; without an answer, the settings say it. -/
  bare : Option Bool
  wish : Wish
deriving DecidableEq

namespace TemplateBody

def mode? : Data → Option ValidationMode
  | .text t => ValidationMode.named? t
  | _ => none

/-- The members that an endpoint knows, the common ones first. -/
def members : TemplateEndpoint → List (List Text)
  | .validate => [["template"], ["snapshot"], ["permissive"]]
  | .resolve => [["template"], ["snapshot"], ["permissive"], ["include_metadata"]]
  | .prompt => [["template"], ["snapshot"], ["permissive"], ["validation_mode"]]

/-- The wish that the endpoint's own member expresses. -/
def wish? (e : TemplateEndpoint) (own : List (Option Data)) : Option Wish :=
  match e with
  | .validate => some .validation
  | .resolve => (Schema.withDefault false Schema.bool? own.head?.join).map .resolution
  | .prompt => (Schema.withDefault .error mode? own.head?.join).map .prompt

def ofData? (e : TemplateEndpoint) (d : Data) : Option TemplateBody :=
  match Schema.record? (members e) d with
  | some (template :: snapshot :: bare :: own) => do
    some {
      template := ← Schema.required Schema.text? template
      snapshot := ← Schema.withDefault {} Snapshot.ofData? snapshot
      bare := ← Schema.withDefault none (Schema.orNull? Schema.bool?) bare
      wish := ← wish? e own }
  | _ => none

end TemplateBody

/-- The body of a request for a catalog. -/
structure TokensBody where
  snapshot : Snapshot
  query : Option Text
deriving DecidableEq

def TokensBody.ofData? (d : Data) : Option TokensBody :=
  match Schema.record? [["snapshot"], ["query"]] d with
  | some [snapshot, query] => do
    some {
      snapshot := ← Schema.required Snapshot.ofData? snapshot
      query := ← Schema.withDefault none (Schema.orNull? Schema.text?) query }
  | _ => none

end PromptTemplate.Service
