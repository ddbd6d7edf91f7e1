import PromptTemplate.Text.Basic

/-!
# UTF-16 and UTF-32

Text in units of two or four bytes, in either byte order. Surrogates are accepted: in UTF-16 two
that make a pair are one character, and any other stands for itself.
-/

namespace PromptTemplate

/-- Which byte of a unit comes first. -/
inductive ByteOrder where
  | bigEndian
  | littleEndian
deriving DecidableEq

/-- The number that two parts of a unit make, each part being below `base`. -/
def ByteOrder.combine (o : ByteOrder) (base first second : Nat) : Nat :=
  match o with
  | bigEndian => first * base + second
  | littleEndian => second * base + first

namespace Utf16

def isHigh (n : Nat) : Bool := 0xD800 ≤ n && n < 0xDC00

def isLow (n : Nat) : Bool := 0xDC00 ≤ n && n < 0xE000

/-- The number of the character that a surrogate pair stands for. -/
def pairValue (high low : Nat) : Nat := 0x10000 + (high - 0xD800) * 0x400 + (low - 0xDC00)

/-- The units that bytes hold, nothing if a byte is left over. -/
def units? (o : ByteOrder) : List UInt8 → Option (List Nat)
  | [] => some []
  | [_] => none
  | a :: b :: bs => (units? o bs).map (o.combine 0x100 a.toNat b.toNat :: ·)

/-- The numbers of the code points that units stand for. -/
def points : List Nat → List Nat
  | [] => []
  | [a] => [a]
  | a :: b :: us =>
    if isHigh a && isLow b then pairValue a b :: points us else a :: points (b :: us)

def decode? (o : ByteOrder) (bs : List UInt8) : Option Text :=
  (units? o bs).bind fun us => (points us).mapM CodePoint.ofNat?

end Utf16

namespace Utf32

/-- The numbers of the code points that bytes hold, nothing if bytes are left over. -/
def points? (o : ByteOrder) : List UInt8 → Option (List Nat)
  | [] => some []
  | a :: b :: c :: d :: bs =>
    let unit := o.combine 0x10000 (o.combine 0x100 a.toNat b.toNat) (o.combine 0x100 c.toNat d.toNat)
    (points? o bs).map (unit :: ·)
  | _ => none

def decode? (o : ByteOrder) (bs : List UInt8) : Option Text :=
  (points? o bs).bind fun ns => ns.mapM CodePoint.ofNat?

end Utf32

end PromptTemplate
