import PromptTemplate.FieldText
import PromptTemplate.Template.Escape
import PromptTemplate.Template.Token
import PromptTemplate.Text.Blank

/-!
# Resolution

Every token of a template has a value for a snapshot, whatever the snapshot holds: what cannot be
found shows as a placeholder in square brackets. Values are put into the text as they are; only the
literal text between tokens has its escapes turned into braces.
-/

namespace PromptTemplate

inductive Status where
  | resolved
  | empty
  | missing
deriving DecidableEq, Inhabited

def Status.name : Status → Text
  | .resolved => "resolved"
  | .empty => "empty"
  | .missing => "missing"

/-- The text that takes the place of a token, and how it came about. -/
structure Resolution where
  value : Text
  status : Status
deriving DecidableEq

namespace Resolution

/-- A message in square brackets. -/
def placeholder (message : String) (subject : Text) : Text :=
  Text.ofString "[" ++ Text.ofString message ++ Text.ofString ": " ++ subject ++ [.char ']']

def missing (message : String) (subject : Text) : Resolution := ⟨placeholder message subject, .missing⟩

def noNotes : Text := "(No notes)"

def ofField (s : Snapshot) (key : Text) : Resolution :=
  match s.field? key with
  | none => missing "Field not found" key
  | some f =>
    match f.value with
    | none => ⟨[], .empty⟩
    | some v =>
      if v.isEmpty then ⟨[], .empty⟩
      else if f.type = .toggle then
        match toggleFlag? f.value with
        | some flag => ⟨yesNo flag, .resolved⟩
        | none => ⟨[], .empty⟩
      else ⟨v, .resolved⟩

def ofSection (s : Snapshot) (id : Text) : Resolution :=
  match s.section? id with
  | none => missing "Section not found" id
  | some sec =>
    match s.fieldsIn sec.id with
    | [] => missing "No fields in section" sec.title
    | fields => ⟨Field.plainText fields, .resolved⟩

/-- The notes on a section that are more than blank space. -/
def notesText? (s : Snapshot) (id : Text) : Option Text :=
  ((s.note? id).bind Note.markdown).filter fun t => !t.strip.isEmpty

def ofNotes (s : Snapshot) (id : Text) : Resolution :=
  match s.section? id with
  | none => missing "Section not found" id
  | some sec =>
    match notesText? s sec.id with
    | some t => ⟨t, .resolved⟩
    | none => ⟨noNotes, .empty⟩

/-- All fields by key. -/
def fieldsPayload (s : Snapshot) : Table Data := Field.payload Field.storedValue s.fields

/-- The notes on known sections by section id. -/
def notesPayload (s : Snapshot) : Table Data :=
  s.notes.foldl
    (fun t n =>
      match s.section? n.sectionId with
      | some sec => Table.set t sec.id (.text (n.markdown.getD []))
      | none => t) []

/-- The value of a token for a snapshot. -/
def ofToken (s : Snapshot) (tok : Token) : Resolution :=
  match tok.kind with
  | .field => ofField s tok.key
  | .sectionFields => ofSection s tok.key
  | .sectionNotes => ofNotes s tok.key
  | .allFields => ⟨Json.write .indented (.map (fieldsPayload s)), .resolved⟩
  | .allNotes => ⟨Json.write .indented (.map (notesPayload s)), .resolved⟩

/-- A value in square brackets. -/
def isBracketed (value : Text) : Bool :=
  value.head? = some (.char '[') && value.getLast? = some (.char ']')

end Resolution

/-- A resolved template with the tokens that gave nothing. -/
structure Resolved where
  text : Text
  emptyTokens : List Text
  missingTokens : List Text
deriving DecidableEq

namespace Template

/-- The tokens of a template with their values, in order. -/
def resolutions (template : Text) (s : Snapshot) (bare : Bool) : List (Occurrence × Resolution) :=
  (occurrences bare (Escape.protect template)).map fun o => (o, Resolution.ofToken s o.token)

/-- The template with every token replaced by its value. -/
def resolve (template : Text) (s : Snapshot) (bare : Bool) : Text :=
  ((cut bare (Escape.protect template)).mapLiteral Escape.unescape).render fun tok =>
    (Resolution.ofToken s tok).value

/-- The resolved template; a token is filed by the text that took its place. -/
def resolveWithTokens (template : Text) (s : Snapshot) (bare : Bool) : Resolved :=
  let all := resolutions template s bare
  let isMissing (p : Occurrence × Resolution) := Resolution.isBracketed p.2.value
  let isEmpty (p : Occurrence × Resolution) := p.2.value.isEmpty || p.2.value = Resolution.noNotes
  { text := resolve template s bare
    emptyTokens := (all.filter fun p => !isMissing p && isEmpty p).map (·.1.token.raw)
    missingTokens := (all.filter isMissing).map (·.1.token.raw) }

/-- Which tokens resolved to nothing or to a placeholder, on one screen. -/
def resolutionSummary (emptyTokens missingTokens : List Text) : Text :=
  let list (ts : List Text) : Text := if ts.isEmpty then "none" else Text.joinWith ", " ts
  Text.joinWith "\n" [Text.ofString "resolution_summary:",
    Text.ofString "empty_tokens: " ++ list emptyTokens,
    Text.ofString "missing_tokens: " ++ list missingTokens]

end Template

end PromptTemplate
