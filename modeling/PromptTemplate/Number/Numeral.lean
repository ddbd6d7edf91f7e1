import PromptTemplate.Text.DigitTable
import PromptTemplate.Text.Blank

/-!
# Numerals

Whole numbers as digits, most significant first, and back. A reader refuses decimal numerals of
more than `maxDigits` digits.
-/

namespace PromptTemplate.Numeral

/-- The longest decimal numeral that is read as a whole number. -/
def maxDigits : Nat := 4300

/-- The decimal digits of a number. -/
def ofNat (n : Nat) : Text := (Nat.toDigits 10 n).map CodePoint.char

/-- The decimal digits of an integer after its sign. -/
def ofInt : Int → Text
  | .ofNat n => ofNat n
  | .negSucc n => .char '-' :: ofNat (n + 1)

/-- The digits of a number below `10 ^ width`, with leading zeros. -/
def padded (width n : Nat) : Text :=
  List.replicate (width - (ofNat n).length) (.char '0') ++ ofNat n

/-- The lower-case hexadecimal digits of a number below `16 ^ width`, with leading zeros. -/
def hex (width n : Nat) : Text :=
  let digits := (Nat.toDigits 16 n).map CodePoint.char
  List.replicate (width - digits.length) (.char '0') ++ digits

/-- The value of an ASCII digit in a base up to sixteen. -/
def digit? (base : Nat) (c : CodePoint) : Option Nat :=
  let n := c.toNat
  let v := if 48 ≤ n ∧ n ≤ 57 then some (n - 48)
    else if 65 ≤ n ∧ n ≤ 70 then some (n - 55)
    else if 97 ≤ n ∧ n ≤ 102 then some (n - 87)
    else none
  v.filter fun d => d < base

/-- The value of digits in a base, from the value of the digits before them. -/
def valueFrom (base : Nat) (acc : Nat) : Text → Option Nat
  | [] => some acc
  | c :: t => (digit? base c).bind fun d => valueFrom base (acc * base + d) t

/-- The value of a non-empty numeral without sign. -/
def toNat? (base : Nat) (t : Text) : Option Nat := if t.isEmpty then none else valueFrom base 0 t

/-- The number with a sign. -/
def signed (negative : Bool) (n : Nat) : Int := if negative then -(n : Int) else n

/-- A sign, if there is one, and what follows it. -/
def takeSign : Text → Bool × Text
  | .char '-' :: t => (true, t)
  | .char '+' :: t => (false, t)
  | t => (false, t)

/-- The ASCII digits at the head of a text, and what follows. -/
def spanDigits (t : Text) : Text × Text :=
  (t.takeWhile CodePoint.isDigit, t.dropWhile CodePoint.isDigit)

/-! ### Numerals written for the eye -/

/-- Text with ASCII digits for digits of any script and spaces for white space of any kind. -/
def plain (t : Text) : Text := t.map fun c =>
  match Text.digitValue? c with
  | some d => .char (Nat.digitChar d)
  | none => if c.isWhiteSpace then .char ' ' else c

/-- A numeral without white space around it, in plain digits. -/
def trimmed (t : Text) : Text := (plain t).trimBy (· = .char ' ')

/-- Why a text is no integer. -/
inductive Refusal where
  | notInt
  /-- An integer with too many digits, whatever follows them. -/
  | tooLong (digits : Nat)
deriving DecidableEq

/-- What follows the mark of a base in front of a numeral: a zero and a letter, after which one
underscore may stand. -/
def dropMark (base : Nat) (t : Text) : Text :=
  let letters := if base = 2 then "bB" else if base = 8 then "oO" else if base = 16 then "xX" else ""
  match t with
  | .char '0' :: c :: u =>
    if (Text.ofString letters).contains c then
      match u with
      | .char '_' :: v => v
      | _ => u
    else t
  | _ => t

/-- Whether underscores stand between digits only, and not one after the other. -/
def isSeparated (t : Text) : Bool :=
  !t.isEmpty && t.head? ≠ some (.char '_') && t.getLast? ≠ some (.char '_') && !t.has "__"

/-- Whether the length of numerals in a base is limited: not where the base is a power of two. -/
def isLimited (base : Nat) : Bool := Nat.pow 2 base.log2 ≠ base

/-- The number that digits make, the most significant first. -/
def ofDigits (base : Nat) (ds : List Nat) : Nat := ds.foldl (fun n d => n * base + d) 0

/-- An integer in a base, written for the eye: white space around it, a sign, the mark of the base,
digits of any script and underscores between them are allowed. -/
def looseInt (base : Nat) (t : Text) : Except Refusal Int :=
  let (negative, u) := takeSign (trimmed t)
  let u := dropMark base u
  let digits := u.takeWhile fun c => (digit? base c).isSome || c = .char '_'
  if !isSeparated digits then .error .notInt
  else
    let ds := digits.filterMap (digit? base)
    if isLimited base ∧ maxDigits < ds.length then .error (.tooLong ds.length)
    else if digits.length < u.length then .error .notInt
    else .ok (signed negative (ofDigits base ds))

/-- What is said of a numeral with too many digits. -/
def tooLongText (digits : Nat) : Text :=
  Text.ofString "Exceeds the limit (" ++ ofNat maxDigits ++
    Text.ofString " digits) for integer string conversion: value has " ++ ofNat digits ++
    Text.ofString " digits; use sys.set_int_max_str_digits() to increase the limit"

/-- What is said of a number whose numeral would have too many digits. -/
def tooLongToWriteText : Text :=
  Text.ofString "Exceeds the limit (" ++ ofNat maxDigits ++
    Text.ofString " digits) for integer string conversion; " ++
    Text.ofString "use sys.set_int_max_str_digits() to increase the limit"

end PromptTemplate.Numeral
