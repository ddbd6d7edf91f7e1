import PromptTemplate.Data
import PromptTemplate.Prompt

/-!
# Reports as data

Validations, resolved templates and prompts in the form in which they are written as JSON.
-/

namespace PromptTemplate

def Diagnostic.toData (d : Diagnostic) : Data := .object [
  ("token", .ofText? d.token), ("type", .text d.type.name), ("message", .text d.message),
  ("suggestions", (d.suggestions.map Data.texts).getD .null)]

def Validation.members (v : Validation) : List (String × Data) := [
  ("valid", .bool v.isValid), ("errors", .list (v.errors.map Diagnostic.toData))]

def Validation.toData (v : Validation) : Data := .object v.members

def Resolved.toData (r : Resolved) : Data := .object [
  ("resolved", .text r.text), ("empty_tokens", .texts r.emptyTokens),
  ("missing_tokens", .texts r.missingTokens)]

def Prompt.toData (p : Prompt) : Data := .object [
  ("prompt", .text p.text), ("prompt_hash", .text p.templateHash),
  ("validation_mode", .text p.mode.name),
  ("validation", (p.validation.map Validation.toData).getD .null),
  ("empty_tokens", .texts p.emptyTokens), ("missing_tokens", .texts p.missingTokens)]

/-- The faults of syntax as a report of their own. -/
def SyntaxCheck.toData (faults : List SyntaxFault) : Data := .object [
  ("valid", .bool faults.isEmpty), ("errors", .texts (faults.map SyntaxFault.message))]

end PromptTemplate
