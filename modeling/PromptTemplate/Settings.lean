import PromptTemplate.Snapshot.File

/-!
# Settings

Settings are kept as YAML. Each has a default, and the limits are positive.
-/

namespace PromptTemplate

structure Settings where
  /-- Whether bare tokens are field tokens. -/
  bareTokens : Bool := true
  maxTemplateChars : Int := 50000
  recentLimit : Int := 10
deriving DecidableEq

namespace Settings

def positive? (d : Data) : Option Int := (Schema.int? d).filter fun n => 0 < n

def ofData? (d : Data) : Option Settings :=
  match Schema.record? [["permissive_bare_tokens"], ["max_template_chars"],
      ["recent_tokens_limit"]] d with
  | some [bareTokens, maxTemplateChars, recentLimit] => do
    some {
      bareTokens := ← Schema.withDefault true Schema.bool? bareTokens
      maxTemplateChars := ← Schema.withDefault 50000 positive? maxTemplateChars
      recentLimit := ← Schema.withDefault 10 positive? recentLimit }
  | _ => none

def toData (s : Settings) : Data := .object [
  ("permissive_bare_tokens", .bool s.bareTokens),
  ("max_template_chars", .int s.maxTemplateChars),
  ("recent_tokens_limit", .int s.recentLimit)]

/-- The settings that the text of a file holds; an empty file sets nothing. -/
def ofText (path : Path) (text : Text) : Except Fault Settings := do
  let raw ← yamlData .settings path text
  let d := match raw with
    | .null => .map []
    | d => d
  if !d.isMapping then .error (.notMapping .settings path)
  else
    match ofData? d with
    | some s => .ok s
    | none => .error (.schema .settings path.toText)

/-- Read settings from a file; without a file, all defaults. -/
def load (path : Option Path) : FileAction Settings :=
  match path with
  | none => pure {}
  | some path => do
    let text ← documentText .settings path
    FileAction.look fun _ => ofText path text

end Settings

end PromptTemplate
