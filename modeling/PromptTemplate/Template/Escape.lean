import PromptTemplate.Text.Cut

/-!
# Literal braces

A backslash before two braces makes them literal. Protecting a template puts a mark in the place of
each such escape, so that the tokens can be read without looking at backslashes. A mark stands
between two NUL code points, which no token holds. Afterwards a mark is turned back into the escape
(`restore`) or into the braces it stands for (`unescape`).
-/

namespace PromptTemplate.Escape

def openEscape : Text := [.char '\\', .char '{', .char '{']

def closeEscape : Text := [.char '\\', .char '}', .char '}']

def openMark : Text := "\x00ESC_OPEN\x00"

def closeMark : Text := "\x00ESC_CLOSE\x00"

/-- Put the marks in place of the escapes. -/
def protect (t : Text) : Text := (t.replace openEscape openMark).replace closeEscape closeMark

/-- Put the escapes back in place of the marks. -/
def restore (t : Text) : Text := (t.replace openMark openEscape).replace closeMark closeEscape

/-- Put the literal braces in place of the marks. -/
def unescape (t : Text) : Text :=
  (t.replace openMark [.char '{', .char '{']).replace closeMark [.char '}', .char '}']

end PromptTemplate.Escape
