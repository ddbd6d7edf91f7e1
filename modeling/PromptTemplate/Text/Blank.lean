import PromptTemplate.Text.Basic

/-!
# Blank space

Three sets: the six blanks of ASCII, the code points with the white-space property, and the wider
set of this library, which adds the four information separators `U+001C` to `U+001F`.
-/

namespace PromptTemplate

namespace CodePoint

/-- Space, tab, line feed, vertical tab, form feed, carriage return. -/
def isAsciiBlank (c : CodePoint) : Bool := c.inRanges [(0x09, 0x0D), (0x20, 0x20)]

/-- The white-space property. -/
def isWhiteSpace (c : CodePoint) : Bool :=
  c.inRanges [(0x09, 0x0D), (0x20, 0x20), (0x85, 0x85), (0xA0, 0xA0), (0x1680, 0x1680),
    (0x2000, 0x200A), (0x2028, 0x2029), (0x202F, 0x202F), (0x205F, 0x205F), (0x3000, 0x3000)]

/-- White space or an information separator. -/
def isBlank (c : CodePoint) : Bool := c.isWhiteSpace || c.inRanges [(0x1C, 0x1F)]

theorem isWhiteSpace_of_isAsciiBlank {c : CodePoint} (h : c.isAsciiBlank = true) :
    c.isWhiteSpace = true := by
  simp only [isAsciiBlank, isWhiteSpace, inRanges, List.any_cons, List.any_nil] at h ⊢
  revert h
  simp
  omega

theorem isBlank_of_isAsciiBlank {c : CodePoint} (h : c.isAsciiBlank = true) :
    c.isBlank = true := by
  simp [isBlank, isWhiteSpace_of_isAsciiBlank h]

end CodePoint

/-- The text without blanks at either end. -/
def Text.strip (t : Text) : Text := t.trimBy CodePoint.isBlank

end PromptTemplate
