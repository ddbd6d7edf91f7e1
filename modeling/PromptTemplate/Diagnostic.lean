import PromptTemplate.Similarity
import PromptTemplate.Snapshot.Basic
import PromptTemplate.Template.Escape
import PromptTemplate.Template.SyntaxCheck

/-!
# Validation

A template is valid for a snapshot when its braces are in order and every token names something that
is there. Checks run on the protected template, so escaped braces are neither counted nor read.
Faults of syntax come first, then one diagnostic for each token that names nothing.
-/

namespace PromptTemplate

/-- What a diagnostic is filed under; faults of syntax go under `field`. -/
inductive DiagnosticType where
  | field
  | sectionFields
  | sectionNotes
deriving DecidableEq, Inhabited

namespace DiagnosticType

/-- The kind of token that the type belongs to. -/
def kind : DiagnosticType → TokenKind
  | field => .field
  | sectionFields => .sectionFields
  | sectionNotes => .sectionNotes

def name (t : DiagnosticType) : Text := t.kind.name

end DiagnosticType

/-- One thing to mend. A fault of syntax has no token. -/
structure Diagnostic where
  token : Option Text := none
  type : DiagnosticType
  message : Text
  suggestions : Option (List Text) := none
deriving DecidableEq

namespace Diagnostic

def ofSyntax (f : SyntaxFault) : Diagnostic := { type := .field, message := f.message }

/-- A token whose key is not among the candidates, with the tokens it may have been meant for. -/
def notFound (type : DiagnosticType) (noun : String) (candidates : List Text) (tok : Token) :
    Diagnostic :=
  let similar := Similarity.suggest tok.key candidates
  { token := some tok.raw
    type
    message := Text.ofString noun ++ Text.ofString " not found: " ++ tok.key
    suggestions := if similar.isEmpty then none else some (similar.map type.kind.token) }

/-- What is wrong with a token, if anything. -/
def ofToken? (s : Snapshot) (tok : Token) : Option Diagnostic :=
  match tok.kind with
  | .field =>
    if (s.field? tok.key).isSome then none
    else some (notFound .field "Field" s.fieldByKey.keys tok)
  | .sectionFields =>
    if (s.section? tok.key).isSome then none
    else some (notFound .sectionFields "Section" s.sectionById.keys tok)
  | .sectionNotes =>
    if (s.section? tok.key).isSome then none
    else some (notFound .sectionNotes "Section" s.sectionById.keys tok)
  | .allFields | .allNotes => none

/-- The line for a reader, with the suggestions on a second line. -/
def format (d : Diagnostic) : Text :=
  let message := match d.token.filter (!·.isEmpty) with
    | some tok => tok ++ Text.ofString ": " ++ d.message
    | none => d.message
  match d.suggestions.getD [] with
  | [] => message
  | ts => message ++ Text.ofString "\nDid you mean: " ++ Text.joinWith ", " ts ++ [.char '?']

end Diagnostic

/-- The outcome of a validation: everything to mend. -/
structure Validation where
  errors : List Diagnostic
deriving DecidableEq

namespace Validation

def isValid (v : Validation) : Bool := v.errors.isEmpty

/-- Validate a template against a snapshot. -/
def ofTemplate (template : Text) (s : Snapshot) (bare : Bool) : Validation :=
  let shielded := Escape.protect template
  ⟨(SyntaxCheck.faults shielded).map .ofSyntax ++
    (Template.occurrences bare shielded).filterMap fun o => Diagnostic.ofToken? s o.token⟩

/-- How many errors there are of each type, the names in order of the alphabet. -/
def counts (v : Validation) : List (Text × Nat) :=
  let names := v.errors.map fun d => if d.token.isNone then Text.ofString "syntax" else d.type.name
  (names.eraseDups.mergeSort Text.le).map fun n => (n, names.count n)

/-- The advice at the end of a summary. -/
def nextCommand (v : Validation) (tokensCommand : Text) : Text :=
  if v.errors.all (·.token.isNone) then
    Text.ofString "none (escape literal braces as " ++ Escape.openEscape ++ Text.ofString " and " ++
      Escape.closeEscape ++ Text.ofString ")"
  else tokensCommand

/-- A diagnostic as lines of a summary. -/
def summaryLines (d : Diagnostic) : List Text :=
  let text := d.format
  let first := text.takeWhile (· ≠ .char '\n')
  let rest := (text.dropWhile (· ≠ .char '\n')).drop 1
  (Text.ofString "- " ++ first) :: if rest.isEmpty then [] else [Text.ofString "  " ++ rest]

/-- The outcome on one screen. -/
def summary (v : Validation) (tokensCommand : Text) : Text :=
  let head : List Text := [Text.ofString "validation_summary:"]
  Text.joinWith "\n" <|
    if v.isValid then
      head ++ [Text.ofString "result=VALID", Text.ofString "errors: none",
        Text.ofString "next_cmd: none"]
    else
      let counted := v.counts.map fun p => p.1 ++ [.char '='] ++ Numeral.ofNat p.2
      head ++ [Text.ofString "result=INVALID",
          Text.ofString "errors: " ++ Text.joinWith ", " counted] ++
        v.errors.flatMap summaryLines ++
        [Text.ofString "next_cmd: " ++ v.nextCommand tokensCommand]

end Validation

end PromptTemplate
