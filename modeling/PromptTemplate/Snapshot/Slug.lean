import PromptTemplate.Text.Cut

/-!
# Slugs

The slug of a title: its runs of ASCII letters and digits in lower case, joined by underscores.
-/

namespace PromptTemplate.Slug

/-- An ASCII letter or digit. -/
def isWordChar (c : CodePoint) : Bool := c.isLetter || c.isDigit

/-- The separator at the head of a text: everything up to the next letter or digit. -/
def separator? (t : Text) : Option Text :=
  match t.takeWhile (!isWordChar ·) with
  | [] => none
  | s => some s

/-- Every separator becomes one underscore, and none is left at either end. -/
def ofTitle (title : Text) : Text :=
  (((title.cut separator? id).render fun _ => [.char '_']).trimBy (· = .char '_')).toLowerAscii

end PromptTemplate.Slug
