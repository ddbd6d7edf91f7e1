import PromptTemplate.Text.Basic

/-!
# A place in a YAML text

A cursor is the rest of the text together with the offset, the line and the column of its head. The
length of the whole text bounds every walk from a cursor to the end.
Lines end at a line feed, a carriage return, or both, and at three further breaks of Unicode.
-/

namespace PromptTemplate.Yaml

/-- A line break. -/
def isBreak (c : CodePoint) : Bool :=
  c.inRanges [(0x0A, 0x0A), (0x0D, 0x0D), (0x85, 0x85), (0x2028, 0x2029)]

/-- A space or a tab. -/
def isGap (c : CodePoint) : Bool := c = .char ' ' || c = .char '\t'

/-- A place where a word ends: a gap, a line break or the end of the text. -/
def isEdge : Option CodePoint → Bool
  | none => true
  | some c => isGap c || isBreak c

/-- The end of a line or of the text. -/
def isLineEnd : Option CodePoint → Bool
  | none => true
  | some c => isBreak c

/-- A place where a space is, or the end of a line or of the text. -/
def isSpaceOrEnd : Option CodePoint → Bool
  | none => true
  | some c => c = .char ' ' || isBreak c

/-- The code points a stream may hold. -/
def isPrintable (c : CodePoint) : Bool :=
  c.inRanges [(0x09, 0x0A), (0x0D, 0x0D), (0x20, 0x7E), (0x85, 0x85), (0xA0, 0xD7FF),
    (0xE000, 0xFFFD), (0x10000, 0x10FFFF)]

/-- A character of a handle, an anchor or a directive. -/
def isNameChar (c : CodePoint) : Bool :=
  c.isLetter || c.isDigit || c = .char '-' || c = .char '_'

structure Cursor where
  rest : Text
  total : Nat := rest.length
  index : Nat := 0
  line : Nat := 0
  column : Nat := 0

namespace Cursor

/-- More steps than any walk from here to the end of the text takes. -/
def fuel (c : Cursor) : Nat := c.total + 1

def peek (c : Cursor) : Option CodePoint := c.rest.head?

/-- The code point `n` places ahead. -/
def peekAt (c : Cursor) (n : Nat) : Option CodePoint := c.rest[n]?

/-- Whether the text goes on with a character. -/
def at? (c : Cursor) (x : Char) : Bool := c.peek = some (.char x)

/-- One code point on. A byte order mark takes no column. -/
def next (c : Cursor) : Cursor :=
  match c.rest with
  | [] => c
  | x :: t =>
    if isBreak x && !(x = .char '\r' && t.head? = some (.char '\n')) then
      { c with rest := t, index := c.index + 1, line := c.line + 1, column := 0 }
    else if x = .char '\uFEFF' then { c with rest := t, index := c.index + 1 }
    else { c with rest := t, index := c.index + 1, column := c.column + 1 }

def advance : Nat → Cursor → Cursor
  | 0, c => c
  | n + 1, c => advance n c.next

/-- The code points of a class at the head, and the place after them. -/
def span (p : CodePoint → Bool) (c : Cursor) : Text × Cursor :=
  let t := c.rest.takeWhile p
  (t, advance t.length c)

def skip (p : CodePoint → Bool) (c : Cursor) : Cursor := (c.span p).2

def skipSpaces (c : Cursor) : Cursor := c.skip (· = .char ' ')

/-- Past a comment, if one begins here. -/
def skipComment (c : Cursor) : Cursor := if c.at? '#' then c.skip (!isBreak ·) else c

/-- The line break at the head as it counts in a scalar, and the place after it. -/
def takeBreak (c : Cursor) : Text × Cursor :=
  match c.rest with
  | .char '\r' :: .char '\n' :: _ => ([.char '\n'], c.next.next)
  | x :: _ =>
    if x = .char '\r' || x = .char '\n' || x = .char '\u0085' then ([.char '\n'], c.next)
    else if isBreak x then ([x], c.next)
    else ([], c)
  | [] => ([], c)

/-- Whether three dashes or three dots stand here as a document marker. -/
def atMarker (c : Cursor) (x : Char) : Bool :=
  c.rest.take 3 = List.replicate 3 (.char x) && isEdge (c.peekAt 3)

/-- Whether a document marker of either kind stands here. -/
def atSeparator (c : Cursor) : Bool := c.atMarker '-' || c.atMarker '.'

/-- Line breaks and the spaces between them, the spaces up to a column only. -/
def breaks (column : Nat) : Nat → Cursor → Text × Cursor
  | 0, c => ([], c)
  | fuel + 1, c =>
    let c := advance (min (column - c.column) (c.rest.takeWhile (· = .char ' ')).length) c
    if (c.peek.map isBreak).getD false then
      let (b, c) := c.takeBreak
      let (bs, c) := breaks column fuel c
      (b ++ bs, c)
    else ([], c)

/-- Line breaks and all spaces between them, and the widest column that the spaces reach. -/
def leadingBreaks : Nat → Nat → Cursor → Text × Nat × Cursor
  | 0, widest, c => ([], widest, c)
  | fuel + 1, widest, c =>
    if c.at? ' ' then leadingBreaks fuel (max widest c.next.column) c.next
    else if (c.peek.map isBreak).getD false then
      let (b, c) := c.takeBreak
      let (bs, widest, c) := leadingBreaks fuel widest c
      (b ++ bs, widest, c)
    else ([], widest, c)

end Cursor

end PromptTemplate.Yaml
