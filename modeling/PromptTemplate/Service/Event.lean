import PromptTemplate.Report

/-!
# What the service says

The endpoints of the service, the causes for which a request is refused, each with its status, code
and message, and the events that are logged while a request is answered.
-/

namespace PromptTemplate.Service

/-- The endpoints that take a template. -/
inductive TemplateEndpoint where
  | validate
  | resolve
  | prompt
deriving DecidableEq

inductive Endpoint where
  | health
  | facts
  | tokens
  | template (e : TemplateEndpoint)
deriving DecidableEq

def TemplateEndpoint.name : TemplateEndpoint → Text
  | validate => "validate"
  | resolve => "resolve"
  | prompt => "prompt"

def Endpoint.name : Endpoint → Text
  | health => "healthz"
  | facts => "meta"
  | tokens => "tokens"
  | template e => e.name

/-- The causes for which a request is not answered as asked. -/
inductive Fault where
  /-- The body is not JSON. -/
  | notJson
  /-- The body is JSON but no object. -/
  | notObject
  /-- The object is not of the endpoint's schema. -/
  | schema
  | settings (message : Text)
  | tooLong (limit : Int) (length : Nat)
  | invalidTemplate (v : Validation)
  /-- Anything that the service is not prepared for. -/
  | internal (path : Text)
deriving DecidableEq

namespace Fault

def status : Fault → Nat
  | notJson | notObject | schema => 400
  | settings _ | internal _ => 500
  | tooLong .. => 413
  | invalidTemplate _ => 422

def code : Fault → Text
  | notJson | notObject => "INVALID_JSON"
  | schema => "INVALID_ARGUMENT"
  | settings _ => "INVALID_SETTINGS"
  | tooLong .. => "TEMPLATE_TOO_LARGE"
  | invalidTemplate _ => "TEMPLATE_INVALID"
  | internal _ => "INTERNAL_ERROR"

def message : Fault → Text
  | notJson => "request body must be valid UTF-8 JSON"
  | notObject => "request JSON must be an object"
  | schema => "request schema validation failed"
  | settings _ => "server settings are invalid"
  | tooLong .. => "template exceeds size limit"
  | invalidTemplate _ => "template has invalid tokens"
  | internal _ => "internal server error"

/-- What a client may want to know beyond the message. Where a body is no JSON or not of the schema, the
words of the reader are left out: they are those of the library that reads. -/
def detail : Fault → List (String × Data)
  | notJson | notObject | schema => []
  | settings m => [("error", .text m)]
  | tooLong limit length => [("max_template_chars", .int limit), ("received_chars", .int length)]
  | invalidTemplate v => [("validation", v.toData)]
  | internal path => [("path", .text path)]

/-- The body of a refusal. -/
def toData (f : Fault) (requestId : Text) : Data := .object [
  ("error_code", .text f.code), ("message", .text f.message),
  ("detail", .object (f.detail ++ [("request_id", .text requestId)]))]

end Fault

/-- How far a request had come when it was refused. -/
inductive Stage where
  | body
  | limits
  | work (e : TemplateEndpoint)
  /-- Outside the endpoints. -/
  | outside
deriving DecidableEq

def Stage.name : Stage → Text
  | body => "parse_body"
  | limits => "check_limits"
  | work e => e.name
  | outside => "middleware"

inductive Event where
  /-- Work on a template begins. -/
  | start (e : TemplateEndpoint) (templateChars tokenCount : Nat) (bare : Bool)
  /-- A request was answered as asked. -/
  | done (e : Endpoint)
  | refused (f : Fault) (e : Option Endpoint) (stage : Option Stage)
deriving DecidableEq

namespace Event

def isError : Event → Bool
  | refused .. => true
  | _ => false

/-- The level at which an event is logged. -/
def level (e : Event) : Text := if e.isError then "ERROR" else "INFO"

/-- A member that is left out where there is nothing to say. -/
def member? (name : String) (t : Option Text) : List (String × Data) :=
  match t with
  | some t => [(name, .text t)]
  | none => []

def toData : Event → Data
  | start e templateChars tokenCount bare => .object [
      ("event", .text "start"), ("endpoint", .text e.name), ("template_chars", .int templateChars),
      ("token_count", .int tokenCount), ("permissive", .bool bare)]
  | done e => .object [
      ("event", .text "done"), ("endpoint", .text e.name), ("status_code", .int 200)]
  | refused f e stage => .object <|
      [("event", .text "error"), ("error_code", .text f.code), ("status_code", .int f.status)] ++
        member? "endpoint" (e.map Endpoint.name) ++ member? "failure_stage" (stage.map Stage.name)

end Event

end PromptTemplate.Service
