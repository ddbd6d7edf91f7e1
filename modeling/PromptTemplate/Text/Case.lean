import PromptTemplate.Text.CaseTable

/-!
# Lower-casing

Every capital has one lower-case code point, with two exceptions. `U+0130` becomes `i` and a
combining dot. A capital sigma becomes a final sigma at the end of a word: a cased letter stands
before it and none after it, marks and modifiers not counted.
-/

namespace PromptTemplate

namespace CodePoint

def isCased (c : CodePoint) : Bool := c.inRanges Text.CaseTable.cased

def isCaseIgnorable (c : CodePoint) : Bool := c.inRanges Text.CaseTable.ignorable

/-- The lower-case code point where it does not depend on the place in a word. -/
def toLower (c : CodePoint) : CodePoint :=
  match c with
  | .surrogate n => .surrogate n
  | .char x =>
    if x.toNat < 0x80 then .char x.toLower
    else
      match Text.CaseTable.lowerRuns.find? fun r =>
        r.1 ≤ x.toNat && x.toNat ≤ r.2.1 && (x.toNat - r.1) % r.2.2.1 == 0 with
      | none => .char x
      | some r => .char (Char.ofNat ((x.toNat : Int) + r.2.2.2).toNat)

end CodePoint

namespace Text

/-- Whether the first code point that counts for case is cased. -/
def startsCased (t : Text) : Bool :=
  ((t.dropWhile CodePoint.isCaseIgnorable).head?.map CodePoint.isCased).getD false

/-- The lower-case form of a code point between the text before it, reversed, and after it. -/
def lowerAt (before : Text) (c : CodePoint) (after : Text) : Text :=
  if c = .char '\u0130' then [.char 'i', .char '\u0307']
  else if c = .char '\u03A3' then
    [.char (if startsCased before && !startsCased after then '\u03C2' else '\u03C3')]
  else [c.toLower]

/-- Lower-case a text that stands after `before`, which is given reversed. -/
def lowerAfter (before : Text) : Text → Text
  | [] => []
  | c :: t => lowerAt before c t ++ lowerAfter (c :: before) t

/-- The lower-case form of a text. -/
def lower (t : Text) : Text := lowerAfter [] t

end Text

end PromptTemplate
