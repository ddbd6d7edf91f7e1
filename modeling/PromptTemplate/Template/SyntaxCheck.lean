import PromptTemplate.Template.Token
import PromptTemplate.Text.Blank

/-!
# Braces and empty shapes

Checks that need no grammar: as many opening as closing pairs of braces, and no pair of braces that
holds nothing but a keyword with its colon or nothing at all. Each distinct empty shape is reported
once, those with a keyword first.
-/

namespace PromptTemplate

inductive SyntaxFault where
  /-- The numbers of opening and closing pairs differ. -/
  | mismatched
  /-- Braces around an empty key or around blank space. -/
  | malformed (shape : Text)
deriving DecidableEq

def SyntaxFault.message : SyntaxFault → Text
  | .mismatched =>
    Text.ofString "Mismatched token braces: found unmatched " ++ openBraces ++ " or " ++ closeBraces
  | .malformed shape => Text.ofString "Malformed token syntax found: " ++ shape

namespace SyntaxCheck

/-- The closing braces after blanks of a class, together with these blanks. -/
def blankThenClose? (blank : CodePoint → Bool) (t : Text) : Option Text :=
  if closeBraces.isPrefixOf (t.dropWhile blank) then some (t.takeWhile blank ++ closeBraces)
  else none

/-- At the head of a text, a keyword and its colon with no key. -/
def emptyKeyword? : Text → Option Text
  | .char '{' :: .char '{' :: t =>
    let word := t.takeWhile CodePoint.isLetter
    match TokenKind.ofKeyword? word, t.dropWhile CodePoint.isLetter with
    | some _, .char ':' :: u =>
      (blankThenClose? CodePoint.isAsciiBlank u).map fun tail =>
        openBraces ++ word ++ [.char ':'] ++ tail
    | _, _ => none
  | _ => none

/-- At the head of a text, braces around nothing. -/
def emptyBraces? : Text → Option Text
  | .char '{' :: .char '{' :: t => (blankThenClose? CodePoint.isBlank t).map (openBraces ++ ·)
  | _ => none

/-- The empty shapes of a text, each once. -/
def emptyShapes (t : Text) : List Text :=
  ((t.cut emptyKeyword? id).hits ++ (t.cut emptyBraces? id).hits).eraseDups

/-- Whether opening and closing pairs are equally many. -/
def isBalanced (t : Text) : Bool := t.count openBraces == t.count closeBraces

/-- Everything wrong with the braces of a text. -/
def faults (t : Text) : List SyntaxFault :=
  (if isBalanced t then [] else [.mismatched]) ++ (emptyShapes t).map .malformed

end SyntaxCheck

end PromptTemplate
