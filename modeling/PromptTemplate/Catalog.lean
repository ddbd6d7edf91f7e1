import PromptTemplate.Data
import PromptTemplate.Snapshot.Basic
import PromptTemplate.Template.Token
import PromptTemplate.Text.Case

/-!
# The catalog of tokens

Every token that can be inserted for a snapshot: one for each field, two for each section, and the
two that ask for everything. A filter keeps the entries whose label or token holds a text, without
regard to case. `partialToken?` is what has been typed of a token before a cursor.
-/

namespace PromptTemplate

namespace Catalog

structure FieldEntry where
  token : Text
  label : Text
  type : FieldType
  value : Option Text
  sectionTitle : Text
  sectionId : Text
  fieldKey : Text
  required : Bool
deriving DecidableEq

structure SectionEntry where
  token : Text
  label : Text
  sectionId : Text
  fieldCount : Nat
  hasFields : Bool
deriving DecidableEq

structure NotesEntry where
  token : Text
  label : Text
  sectionId : Text
  hasContent : Bool
deriving DecidableEq

/-- A token that asks for everything of a kind. -/
structure WholeEntry where
  token : Text
  label : Text
deriving DecidableEq

end Catalog

/-- The tokens of a snapshot in four groups. -/
structure Catalog where
  fields : List Catalog.FieldEntry
  sections : List Catalog.SectionEntry
  notes : List Catalog.NotesEntry
  whole : List Catalog.WholeEntry
deriving DecidableEq

namespace Catalog

def FieldEntry.ofField (f : Field) : FieldEntry where
  token := TokenKind.field.token f.key
  label := f.label
  type := f.type
  value := f.value
  sectionTitle := f.sectionTitle
  sectionId := f.sectionId
  fieldKey := f.key
  required := f.required

def SectionEntry.ofSection (s : Snapshot) (sec : Section) : SectionEntry where
  token := TokenKind.sectionFields.token sec.id
  label := sec.title
  sectionId := sec.id
  fieldCount := (s.fieldsIn sec.id).length
  hasFields := 0 < (s.fieldsIn sec.id).length

def NotesEntry.ofSection (s : Snapshot) (sec : Section) : NotesEntry where
  token := TokenKind.sectionNotes.token sec.id
  label := sec.title ++ Text.ofString " Notes"
  sectionId := sec.id
  hasContent :=
    match (s.note? sec.id).bind Note.markdown with
    | some t => !t.isEmpty
    | none => false

def ofSnapshot (s : Snapshot) : Catalog where
  fields := s.fields.map .ofField
  sections := s.sections.map (.ofSection s)
  notes := s.sections.map (.ofSection s)
  whole := [⟨TokenKind.allFields.token [], "All Fields (JSON)"⟩,
    ⟨TokenKind.allNotes.token [], "All Notes (JSON)"⟩]

/-- Whether the lower-case form of a label or a token holds a text. -/
def isMatch (needle label token : Text) : Bool := label.lower.has needle || token.lower.has needle

/-- The entries that match a query. -/
def filter (c : Catalog) (query : Text) : Catalog :=
  let needle := query.lower
  if needle.isEmpty then c
  else
    { fields := c.fields.filter fun e => isMatch needle e.label e.token
      sections := c.sections.filter fun e => isMatch needle e.label e.token
      notes := c.notes.filter fun e => isMatch needle e.label e.token
      whole := c.whole.filter fun e => isMatch needle e.label e.token }

/-- The entries that match a query, or all of them without one. -/
def filter? (c : Catalog) (query : Option Text) : Catalog :=
  match query.filter (!·.isEmpty) with
  | some q => c.filter q
  | none => c

def FieldEntry.toData (e : FieldEntry) : Data := .object [
  ("token", .text e.token), ("label", .text e.label), ("type", .text e.type.name),
  ("value", .ofText? e.value), ("section_title", .text e.sectionTitle),
  ("section_id", .text e.sectionId), ("field_key", .text e.fieldKey),
  ("required", .bool e.required)]

def SectionEntry.toData (e : SectionEntry) : Data := .object [
  ("token", .text e.token), ("label", .text e.label), ("section_id", .text e.sectionId),
  ("field_count", .int e.fieldCount), ("has_fields", .bool e.hasFields)]

def NotesEntry.toData (e : NotesEntry) : Data := .object [
  ("token", .text e.token), ("label", .text e.label), ("section_id", .text e.sectionId),
  ("has_content", .bool e.hasContent)]

def WholeEntry.toData (e : WholeEntry) : Data := .object [
  ("token", .text e.token), ("label", .text e.label)]

def toData (c : Catalog) : Data := .object [
  ("fields", .list (c.fields.map FieldEntry.toData)),
  ("sections", .list (c.sections.map SectionEntry.toData)),
  ("notes", .list (c.notes.map NotesEntry.toData)),
  ("legacy", .list (c.whole.map WholeEntry.toData))]

/-- What follows the last opening braces of a text, if there are any. -/
def afterLastOpen? : Text → Option Text
  | [] => none
  | c :: t =>
    match afterLastOpen? t with
    | some typed => some typed
    | none => if openBraces.isPrefixOf (c :: t) then some (t.drop 1) else none

/-- The place of a cursor within a text; no cursor is the end. -/
def clampCursor (text : Text) (cursor : Option Int) : Nat :=
  match cursor with
  | none => text.length
  | some c => (max 0 (min c text.length)).toNat

/-- What has been typed of a token before the cursor: the text after the last opening braces, unless
they have been closed since. -/
def partialToken? (text : Text) (cursor : Option Int) : Option Text :=
  (afterLastOpen? (text.take (clampCursor text cursor))).filter fun typed => !typed.has closeBraces

end Catalog

end PromptTemplate
