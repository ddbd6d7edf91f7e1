/-!
# Text

Text is a list of code points. A code point is a character or a lone surrogate: half of a
surrogate pair without its other half. Such halves can be written in JSON and in quoted YAML, so
they occur in the data a template is resolved against. Every offset and length counts code points.
-/

namespace PromptTemplate

/-- One unit of text. -/
inductive CodePoint where
  | char (c : Char)
  /-- The code point `0xD800 + offset`. -/
  | surrogate (offset : Fin 2048)
deriving DecidableEq, Inhabited

namespace CodePoint

instance : Coe Char CodePoint := ⟨.char⟩

/-- The number of a code point. -/
def toNat : CodePoint → Nat
  | .char c => c.toNat
  | .surrogate n => 0xD800 + n

/-- The code point with a number, if there is one. -/
def ofNat? (n : Nat) : Option CodePoint :=
  if h : 0xD800 ≤ n ∧ n < 0xE000 then some (.surrogate ⟨n - 0xD800, by omega⟩)
  else if n < 0x110000 then some (.char (Char.ofNat n))
  else none

def isSurrogate : CodePoint → Bool
  | .char _ => false
  | .surrogate _ => true

/-- The character, unless the code point is a lone surrogate. -/
def toChar? : CodePoint → Option Char
  | .char c => some c
  | .surrogate _ => none

/-- Whether the number of the code point lies in one of the ranges, ends included. -/
def inRanges (ranges : List (Nat × Nat)) (c : CodePoint) : Bool :=
  ranges.any fun r => r.1 ≤ c.toNat && c.toNat ≤ r.2

/-- An ASCII decimal digit. -/
def isDigit : CodePoint → Bool
  | .char c => c.isDigit
  | .surrogate _ => false

/-- An ASCII letter. -/
def isLetter : CodePoint → Bool
  | .char c => c.isAlpha
  | .surrogate _ => false

/-- The lower-case form of an ASCII capital; any other code point as it is. -/
def toLowerAscii : CodePoint → CodePoint
  | .char c => .char c.toLower
  | .surrogate n => .surrogate n

end CodePoint

abbrev Text := List CodePoint

/-- Stated here, so that membership in a list of texts is decided in one way everywhere. -/
instance : LawfulBEq Text := inferInstance

namespace Text

/-- The text of a string. -/
def ofString (s : String) : Text := s.toList.map CodePoint.char

instance : Coe String Text := ⟨ofString⟩

/-- The string of a text without lone surrogates. -/
def toString? (t : Text) : Option String :=
  (t.mapM CodePoint.toChar?).map String.ofList

/-- Whether every code point is a character. -/
def isScalar (t : Text) : Bool := t.all (!·.isSurrogate)

/-- The parts one after the other, with `sep` between neighbours. -/
def joinWith (sep : Text) : List Text → Text
  | [] => []
  | [t] => t
  | t :: u :: rest => t ++ sep ++ joinWith sep (u :: rest)

/-- The parts between the occurrences of a code point; there is always at least one. -/
def splitOn (sep : CodePoint) : Text → List Text
  | [] => [[]]
  | c :: t =>
    if c = sep then [] :: splitOn sep t
    else match splitOn sep t with
      | [] => [[c]]
      | part :: parts => (c :: part) :: parts

/-- Whether a text occurs in another. -/
def has : Text → Text → Bool
  | [], needle => needle.isEmpty
  | c :: t, needle => needle.isPrefixOf (c :: t) || has t needle

/-- Order by code point, the shorter text first where one begins the other. -/
def le : Text → Text → Bool
  | [], _ => true
  | _ :: _, [] => false
  | a :: s, b :: t => a.toNat < b.toNat || (a == b && le s t)

/-- ASCII lower-casing. -/
def toLowerAscii (t : Text) : Text := t.map CodePoint.toLowerAscii

/-- The text without the code points of a class at either end. -/
def trimBy (p : CodePoint → Bool) (t : Text) : Text :=
  ((t.dropWhile p).reverse.dropWhile p).reverse

theorem splitOn_ne_nil (sep : CodePoint) (t : Text) : splitOn sep t ≠ [] := by
  cases t with
  | nil => simp [splitOn]
  | cons c t =>
    unfold splitOn
    split
    · simp
    · split <;> simp

end Text

end PromptTemplate
