import PromptTemplate.Diagnostic
import PromptTemplate.Digest
import PromptTemplate.Resolution
import PromptTemplate.Text.Utf8

/-!
# Prompts

A prompt is made in two steps, validation and resolution. The mode says what a failed validation
does: it stops the work, it is reported along with the prompt, or there is none. The prompt carries
the digest of the template it was made from.
-/

namespace PromptTemplate

inductive ValidationMode where
  | error
  | warn
  | off
deriving DecidableEq, Inhabited

namespace ValidationMode

def all : List ValidationMode := [error, warn, off]

def name : ValidationMode → Text
  | error => "error"
  | warn => "warn"
  | off => "off"

def named? (t : Text) : Option ValidationMode := all.find? fun m => m.name = t

end ValidationMode

inductive PromptFault where
  /-- The template is not valid, and the mode asks for a valid one. -/
  | invalid (v : Validation)
  /-- The template has a lone surrogate, so it has no bytes to take the digest of. -/
  | unencodable (f : Utf8.EncodeFault)

structure Prompt where
  text : Text
  templateHash : Text
  mode : ValidationMode
  validation : Option Validation
  emptyTokens : List Text
  missingTokens : List Text
deriving DecidableEq

namespace Prompt

/-- The digest of the bytes of a template. -/
def hashOf (template : Text) : Except Utf8.EncodeFault Text :=
  (Utf8.encode template).map Digest.sha256

/-- Validate as the mode says, then resolve. -/
def build (template : Text) (s : Snapshot) (mode : ValidationMode) (bare : Bool) :
    Except PromptFault Prompt :=
  let validation := if mode = .off then none else some (Validation.ofTemplate template s bare)
  match validation.filter fun v => mode = .error && !v.isValid with
  | some v => .error (.invalid v)
  | none =>
    let resolved := Template.resolveWithTokens template s bare
    match hashOf template with
    | .error f => .error (.unencodable f)
    | .ok hash => .ok {
        text := resolved.text
        templateHash := hash
        mode
        validation
        emptyTokens := resolved.emptyTokens
        missingTokens := resolved.missingTokens }

end Prompt

end PromptTemplate
