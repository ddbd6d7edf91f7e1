import PromptTemplate.Json.Printer
import PromptTemplate.Snapshot.Basic

/-!
# Fields as text

A section is shown as one `Label: value` line per field, in the order of the fields' indices; equal
indices keep the order of the snapshot. A missing value shows as `(empty)`, a toggle as `Yes` or
`No`, and the further lines of a long text are indented so that they stay with their field.
-/

namespace PromptTemplate

/-- The flag that the value of a toggle stands for, if it is one of the two known words. -/
def toggleFlag? (value : Option Text) : Option Bool :=
  match value with
  | some t => if t = "true" then some true else if t = "false" then some false else none
  | none => none

/-- A flag in words. -/
def yesNo (flag : Bool) : Text := if flag then "Yes" else "No"

/-- Indent every line but the first. -/
def indentLines (t : Text) : Text :=
  Text.joinWith [.char '\n', .char ' ', .char ' '] (t.splitOn (.char '\n'))

namespace Field

def emptyText : Text := "(empty)"

/-- The value of a field on its line. -/
def valueText (f : Field) : Text :=
  match f.value with
  | none => emptyText
  | some v =>
    if v.isEmpty then emptyText
    else
      match f.type with
      | .toggle =>
        match toggleFlag? f.value with
        | some flag => yesNo flag
        | none => emptyText
      | .longText => indentLines v
      | .shortText => v

/-- The fields in the order of their indices. -/
def inOrder (fields : List Field) : List Field :=
  fields.mergeSort fun a b => a.orderIndex ≤ b.orderIndex

def plainLine (f : Field) : Text := f.label ++ Text.ofString ": " ++ f.valueText

def markdownLine (f : Field) : Text :=
  Text.ofString "- **" ++ f.label ++ Text.ofString "**: " ++ f.valueText

/-- The fields as plain lines. -/
def plainText (fields : List Field) : Text :=
  Text.joinWith "\n" ((inOrder fields).map plainLine)

/-- The fields as a list in Markdown. -/
def markdownText (fields : List Field) : Text :=
  Text.joinWith "\n" ((inOrder fields).map markdownLine)

/-- A flag, or null where there is none. -/
def flagData (flag : Option Bool) : Data :=
  match flag with
  | some b => .bool b
  | none => .null

/-- The value of a field with its type; an empty value is null. -/
def sectionValue (f : Field) : Data :=
  if f.type = .toggle then flagData (toggleFlag? f.value)
  else .ofText? (f.value.filter (!·.isEmpty))

/-- The value of a field with its type, as stored. -/
def storedValue (f : Field) : Data :=
  if f.type = .toggle then flagData (toggleFlag? f.value) else .ofText? f.value

/-- Values by key; where a key repeats, the last value stands at the first place. -/
def payload (value : Field → Data) (fields : List Field) : Table Data :=
  fields.foldl (fun t f => Table.set t f.key (value f)) []

/-- The fields of a section as a JSON object. -/
def jsonText (fields : List Field) : Text :=
  Json.write .indented (.map (payload sectionValue (inOrder fields)))

end Field

end PromptTemplate
