import PromptTemplate.Table

/-!
# Snapshots

A snapshot holds what templates are resolved against: fields with their values, sections, and notes
on sections. Keys and ids may repeat; the first entry counts. A field or a note may name a section
that is not there. The look-up tables list keys in the order they are first seen.
-/

namespace PromptTemplate

inductive FieldType where
  | shortText
  | longText
  | toggle
deriving DecidableEq, Inhabited

/-- The name of a field type. -/
def FieldType.name : FieldType → Text
  | .shortText => "short-text"
  | .longText => "long-text"
  | .toggle => "toggle"

structure Field where
  key : Text
  label : Text
  type : FieldType := .shortText
  value : Option Text := none
  sectionId : Text
  sectionTitle : Text := []
  orderIndex : Int := 0
  required : Bool := false
deriving DecidableEq

/-- A section; its id is what tokens name, its key is only shown. -/
structure Section where
  id : Text
  title : Text
  key : Text
deriving DecidableEq

/-- Notes on a section. -/
structure Note where
  sectionId : Text
  markdown : Option Text
deriving DecidableEq

structure Snapshot where
  fields : List Field := []
  sections : List Section := []
  notes : List Note := []
deriving DecidableEq

namespace Snapshot

/-! ### Look-ups: the first entry with a key counts -/

def field? (s : Snapshot) (key : Text) : Option Field := s.fields.find? fun f => f.key = key

def section? (s : Snapshot) (id : Text) : Option Section := s.sections.find? fun sec => sec.id = id

def note? (s : Snapshot) (sectionId : Text) : Option Note :=
  s.notes.find? fun n => n.sectionId = sectionId

/-- The fields of a section in the order of the snapshot. -/
def fieldsIn (s : Snapshot) (sectionId : Text) : List Field :=
  s.fields.filter fun f => f.sectionId = sectionId

/-! ### Look-up tables -/

def fieldByKey (s : Snapshot) : Table Field := Table.firstByKey Field.key s.fields

def sectionById (s : Snapshot) : Table Section := Table.firstByKey Section.id s.sections

def noteBySection (s : Snapshot) : Table Note := Table.firstByKey Note.sectionId s.notes

def fieldsBySection (s : Snapshot) : Table (List Field) :=
  Table.groupByKey Field.sectionId s.fields

theorem get?_fieldByKey (s : Snapshot) (key : Text) : s.fieldByKey.get? key = s.field? key :=
  Table.get?_firstByKey ..

theorem get?_sectionById (s : Snapshot) (id : Text) : s.sectionById.get? id = s.section? id :=
  Table.get?_firstByKey ..

theorem get?_noteBySection (s : Snapshot) (id : Text) : s.noteBySection.get? id = s.note? id :=
  Table.get?_firstByKey ..

theorem get?_fieldsBySection (s : Snapshot) (id : Text) :
    (s.fieldsBySection.get? id).getD [] = s.fieldsIn id :=
  Table.get?_groupByKey ..

end Snapshot

end PromptTemplate
