import PromptTemplate.Number.Numeral
import PromptTemplate.Text.PrintTable

/-!
# Quoted text in messages

A text in a message stands in single quotes, or in double quotes if it holds single quotes and no
double ones. What cannot be printed is escaped.
-/

namespace PromptTemplate.Quoted

/-- A code point inside quotes. -/
def point (mark : Char) (c : CodePoint) : Text :=
  if c = .char mark || c = .char '\\' then [.char '\\', c]
  else if c = .char '\n' then Text.ofString "\\n"
  else if c = .char '\r' then Text.ofString "\\r"
  else if c = .char '\t' then Text.ofString "\\t"
  else if c.inRanges Text.unprintable then
    if c.toNat < 0x100 then Text.ofString "\\x" ++ Numeral.hex 2 c.toNat
    else if c.toNat < 0x10000 then Text.ofString "\\u" ++ Numeral.hex 4 c.toNat
    else Text.ofString "\\U" ++ Numeral.hex 8 c.toNat
  else [c]

/-- A text in quotes. -/
def ofText (t : Text) : Text :=
  let mark : Char := if t.contains (.char '\'') && !t.contains (.char '"') then '"' else '\''
  [.char mark] ++ t.flatMap (point mark) ++ [.char mark]

end PromptTemplate.Quoted
