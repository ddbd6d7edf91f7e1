import PromptTemplate.Schema
import PromptTemplate.Snapshot.Basic
import PromptTemplate.Snapshot.Slug
import PromptTemplate.Text.Blank
import PromptTemplate.Text.Case

/-!
# Reading and writing snapshots as data

The schema of a snapshot: three lists of records. Members with two words in their name are known
under two spellings. A section without a key gets the slug of its title.
-/

namespace PromptTemplate

/-- The spellings of the field types, without blanks around them and in lower case. -/
def FieldType.spellings : Table FieldType := [
  ("shorttext", .shortText), ("short-text", .shortText), ("short_text", .shortText),
  ("longtext", .longText), ("long-text", .longText), ("long_text", .longText),
  ("toggle", .toggle)]

def FieldType.ofData? : Data → Option FieldType
  | .text t => FieldType.spellings.get? t.strip.lower
  | _ => none

namespace Field

def ofData? (d : Data) : Option Field :=
  match Schema.record? [["key"], ["label"], ["type"], ["value"], ["sectionId", "section_id"],
      ["sectionTitle", "section_title"], ["orderIndex", "order_index"], ["required"]] d with
  | some [key, label, type, value, sectionId, sectionTitle, orderIndex, required] => do
    some {
      key := ← Schema.required Schema.text? key
      label := ← Schema.required Schema.text? label
      type := ← Schema.withDefault .shortText FieldType.ofData? type
      value := ← Schema.withDefault none (Schema.orNull? Schema.text?) value
      sectionId := ← Schema.required Schema.text? sectionId
      sectionTitle := ← Schema.withDefault [] Schema.text? sectionTitle
      orderIndex := ← Schema.withDefault 0 Schema.int? orderIndex
      required := ← Schema.withDefault false Schema.bool? required }
  | _ => none

def toData (f : Field) : Data := .object [
  ("key", .text f.key), ("label", .text f.label), ("type", .text f.type.name),
  ("value", .ofText? f.value), ("section_id", .text f.sectionId),
  ("section_title", .text f.sectionTitle), ("order_index", .int f.orderIndex),
  ("required", .bool f.required)]

end Field

namespace Section

/-- The title of a section as it goes into the slug of a missing key. -/
def titleText : Data → Text
  | .text t => t
  | .bytes bs =>
    Text.ofString "b'" ++ bs.flatMap fun b =>
      if b = 0x09 then Text.ofString "\\t"
      else if b = 0x0A then Text.ofString "\\n"
      else if b = 0x0D then Text.ofString "\\r"
      else if 0x20 ≤ b ∧ b < 0x7F then [.char (Char.ofNat b.toNat)]
      else Text.ofString "\\x" ++ Numeral.hex 2 b.toNat
  | _ => []

/-- The key of a section: as given, or the slug of the title. -/
def keyOf? (key title : Option Data) : Option Text :=
  match key.filter Schema.isGiven with
  | some d => Schema.text? d
  | none => some (Slug.ofTitle ((title.map titleText).getD []))

def ofData? (d : Data) : Option Section :=
  match Schema.record? [["id"], ["title"], ["key"]] d with
  | some [id, title, key] => do
    some {
      id := ← Schema.required Schema.text? id
      title := ← Schema.required Schema.text? title
      key := ← keyOf? key title }
  | _ => none

def toData (s : Section) : Data := .object [
  ("id", .text s.id), ("title", .text s.title), ("key", .text s.key)]

end Section

namespace Note

def ofData? (d : Data) : Option Note :=
  match Schema.record? [["sectionId", "section_id"], ["markdown"]] d with
  | some [sectionId, markdown] => do
    some {
      sectionId := ← Schema.required Schema.text? sectionId
      markdown := ← Schema.withDefault none (Schema.orNull? Schema.text?) markdown }
  | _ => none

def toData (n : Note) : Data := .object [
  ("section_id", .text n.sectionId), ("markdown", .ofText? n.markdown)]

end Note

namespace Snapshot

def ofData? (d : Data) : Option Snapshot :=
  match Schema.record? [["fields"], ["sections"], ["notes"]] d with
  | some [fields, sections, notes] => do
    some {
      fields := ← Schema.withDefault [] (Schema.list? Field.ofData?) fields
      sections := ← Schema.withDefault [] (Schema.list? Section.ofData?) sections
      notes := ← Schema.withDefault [] (Schema.list? Note.ofData?) notes }
  | _ => none

end Snapshot

end PromptTemplate
