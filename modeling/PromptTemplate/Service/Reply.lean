import PromptTemplate.Catalog
import PromptTemplate.Service.Body
import PromptTemplate.Settings

/-!
# Answering requests

`respond` answers one request in a given environment. It reads nothing but the settings file, and
every answer comes with the events that are logged on the way. A reply that has no bytes, since a
lone surrogate or an integer with too many digits is in it, is replaced by a refusal.
-/

namespace PromptTemplate.Service

def version : Text := "0.1.0"

/-- The forms of tokens, as shown to authors of templates. -/
def tokenForms : List Text := [
  tokenNamed "field" "KEY", tokenNamed "section" "KEY", tokenNamed "notes" "KEY",
  TokenKind.allFields.token [], TokenKind.allNotes.token [],
  openBraces ++ "KEY" ++ closeBraces]

/-- What an operator may set from outside, as it is written there. -/
structure Environment where
  /-- The path of the settings file; an empty one counts as none. -/
  settingsPath : Option Text := none
  /-- The limit on templates; one that is not a positive number counts as none. -/
  maxTemplateChars : Option Text := none

structure Request where
  method : Text
  path : Text
  body : List UInt8 := []

structure Reply where
  status : Nat
  body : Data
  requestId : Text
  events : List Event := []

/-- The work on a request: the body of the reply or a refusal, and the events so far. -/
structure Work where
  events : List Event
  result : Except Fault Data

namespace Environment

/-- The settings in force. A fault that is not a refusal is one the service is not prepared for. -/
def settings (env : Environment) (t : FileTree) (path : Text) : Except Fault Settings :=
  let file := (env.settingsPath.filter (!·.isEmpty)).map Path.ofText
  match (Settings.load file).run t with
  | (.ok s, _) => .ok s
  | (.error f, _) => .error (if f.isRefusal then .settings f.message else .internal path)

/-- The limit on the length of templates. -/
def limit (env : Environment) (s : Settings) : Int :=
  ((env.maxTemplateChars.bind fun t => (Numeral.looseInt 10 t).toOption).filter fun n => 0 < n).getD
    s.maxTemplateChars

end Environment

namespace Work

/-- A refusal after some events, and the event that logs it. -/
def refuse (events : List Event) (f : Fault) (e : Endpoint) (stage : Option Stage) : Work :=
  match f with
  | .internal path => ⟨events ++ [.refused (.internal path) none (some .outside)], .error f⟩
  | f => ⟨events ++ [.refused f (some e) stage], .error f⟩

/-- A body, or a refusal with the event that logs it. -/
def finish (events : List Event) (r : Except Fault Data) (e : Endpoint) (stage : Option Stage) :
    Work :=
  match r with
  | .ok d => ⟨events ++ [.done e], .ok d⟩
  | .error f => refuse events f e stage

end Work

/-- The settings as a client sees them. -/
def factsData (s : Settings) (limit : Int) : Data := .object [
  ("version", .text version), ("token_types", .texts (TokenKind.all.map TokenKind.name)),
  ("token_forms", .texts tokenForms), ("permissive_bare_tokens", .bool s.bareTokens),
  ("max_template_chars", .int limit)]

/-- The facts about grammar and limits. They are not logged. -/
def factsWork (env : Environment) (t : FileTree) (path : Text) : Work :=
  match env.settings t path with
  | .ok s => ⟨[], .ok (factsData s (env.limit s))⟩
  | .error f => .refuse [] f .facts none

/-- The catalog of a snapshot. -/
def tokensWork (path : Text) (body : List UInt8) : Work :=
  let result := do
    let d ← objectOf body path
    match TokensBody.ofData? d with
    | some b => .ok ((Catalog.ofSnapshot b.snapshot).filter? b.query).toData
    | none => .error .schema
  .finish [] result .tokens none

/-- The body of a request about a template. -/
def templateBody (e : TemplateEndpoint) (path : Text) (body : List UInt8) :
    Except Fault TemplateBody := do
  let d ← objectOf body path
  match TemplateBody.ofData? e d with
  | some b => .ok b
  | none => .error .schema

/-- Whether bare tokens count for a body, once its template is known to be within the limit. -/
def bareFor (env : Environment) (t : FileTree) (path : Text) (b : TemplateBody) :
    Except Fault Bool := do
  let s ← env.settings t path
  let limit := env.limit s
  if limit < b.template.length then .error (.tooLong limit b.template.length)
  else .ok (b.bare.getD s.bareTokens)

/-- What was asked for. -/
def fulfil (path : Text) (b : TemplateBody) (bare : Bool) : Except Fault Data :=
  match b.wish with
  | .validation =>
    let v := Validation.ofTemplate b.template b.snapshot bare
    let syntaxFaults := SyntaxCheck.faults (Escape.protect b.template)
    .ok (.object (v.members ++ [("syntax", SyntaxCheck.toData syntaxFaults)]))
  | .resolution true => .ok (Template.resolveWithTokens b.template b.snapshot bare).toData
  | .resolution false =>
    .ok (.object [("resolved", .text (Template.resolve b.template b.snapshot bare))])
  | .prompt mode =>
    match Prompt.build b.template b.snapshot mode bare with
    | .ok p => .ok p.toData
    | .error (.invalid v) => .error (.invalidTemplate v)
    | .error (.unencodable _) => .error (.internal path)

/-- The event with which work on a template begins. -/
def startEvent (e : TemplateEndpoint) (template : Text) (bare : Bool) : Event :=
  .start e template.length (Template.occurrences bare (Escape.protect template)).length bare

/-- Work on a template: read the body, check the limits, then do what was asked. -/
def templateWork (e : TemplateEndpoint) (env : Environment) (t : FileTree) (path : Text)
    (body : List UInt8) : Work :=
  match templateBody e path body with
  | .error f => .refuse [] f (.template e) (some .body)
  | .ok b =>
    match bareFor env t path b with
    | .error f => .refuse [] f (.template e) (some .limits)
    | .ok bare =>
      .finish [startEvent e b.template bare] (fulfil path b bare) (.template e) (some (.work e))

/-- The reply to a request; one without bytes is replaced. -/
def Work.reply (w : Work) (requestId path : Text) : Reply :=
  let (status, body) := match w.result with
    | .ok d => (200, d)
    | .error f => (f.status, f.toData requestId)
  if Json.isWritable body && (Json.write .compact body).isScalar then ⟨status, body, requestId, w.events⟩
  else
    let f : Fault := .internal path
    ⟨f.status, f.toData requestId, requestId, w.events ++ [.refused f none (some .outside)]⟩

/-- The endpoints with their paths and methods. -/
def routes : List (Text × Text × Endpoint) := [
  ("/healthz", "GET", .health), ("/v1/meta", "GET", .facts),
  ("/v1/validate", "POST", .template .validate), ("/v1/resolve", "POST", .template .resolve),
  ("/v1/prompt", "POST", .template .prompt), ("/v1/tokens", "POST", .tokens)]

/-- A reply in which only a reason is given. -/
def turnAway (status : Nat) (reason : String) (requestId : Text) : Reply :=
  { status, body := .object [("detail", .text reason)], requestId }

/-- Answer a request. -/
def respond (env : Environment) (t : FileTree) (requestId : Text) (r : Request) : Reply :=
  match routes.find? fun route => route.1 = r.path with
  | none => turnAway 404 "Not Found" requestId
  | some (_, method, e) =>
    if method ≠ r.method then turnAway 405 "Method Not Allowed" requestId
    else
      let work : Work := match e with
        | .health => ⟨[], .ok (.object [("status", .text "ok")])⟩
        | .facts => factsWork env t r.path
        | .tokens => tokensWork r.path r.body
        | .template e => templateWork e env t r.path r.body
      work.reply requestId r.path

end PromptTemplate.Service
