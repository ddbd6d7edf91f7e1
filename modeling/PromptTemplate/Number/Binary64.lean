import PromptTemplate.Number.Numeral

/-!
# Binary floating-point numbers

A finite number is a sign, a mantissa below `2 ^ 53` and an exponent of two; all arithmetic is exact
on natural numbers. `ofRatio` rounds to the nearest number, ties to the even mantissa; a sum and a
product are rounded once. `shortest` writes the fewest digits that read back as the same number,
`toFixed` a fixed number of places.
-/

namespace PromptTemplate

inductive Binary64 where
  | nan
  | infinite (negative : Bool)
  /-- The number `mantissa * 2 ^ exponent` with its sign. -/
  | finite (negative : Bool) (mantissa : Nat) (exponent : Int)
deriving DecidableEq, Inhabited

namespace Binary64

/-- The least exponent of a finite number. -/
def minExponent : Int := -1074

/-- The greatest exponent of a finite number. -/
def maxExponent : Int := 971

def zero (negative : Bool) : Binary64 := .finite negative 0 minExponent

/-- A quotient rounded to the nearest whole number, a half to the even neighbour. -/
def roundDiv (num den : Nat) : Nat :=
  let q := num / den
  let r := num % den
  if 2 * r < den then q
  else if den < 2 * r then q + 1
  else if q % 2 = 0 then q else q + 1

/-- The quotient `num / den / 2 ^ e` as a quotient of natural numbers. -/
def scaled (num den : Nat) (e : Int) : Nat × Nat :=
  if 0 ≤ e then (num, den * Nat.pow 2 e.toNat) else (num * Nat.pow 2 (-e).toNat, den)

/-- The number nearest to a quotient. -/
def ofRatio (negative : Bool) (num den : Nat) : Binary64 :=
  if num = 0 ∨ den = 0 then zero negative
  else
    let low : Int := max ((num.log2 : Int) - den.log2 - 53) minExponent
    let fits := (let s := scaled num den low; s.1 / s.2 < Nat.pow 2 53)
    let e := if fits then low else low + 1
    let s := scaled num den e
    let m := roundDiv s.1 s.2
    let (m, e) := if m < Nat.pow 2 53 then (m, e) else (m / 2, e + 1)
    if maxExponent < e then .infinite negative else .finite negative m e

/-- The number nearest to `digits * 10 ^ exponent`. Exponents far out of range are not expanded. -/
def ofDecimal (negative : Bool) (digits : Nat) (exponent : Int) : Binary64 :=
  let size : Int := (Nat.toDigits 10 digits).length + exponent
  if digits = 0 ∨ size < -400 then zero negative
  else if 400 < size then .infinite negative
  else if 0 ≤ exponent then ofRatio negative (digits * Nat.pow 10 exponent.toNat) 1
  else ofRatio negative digits (Nat.pow 10 (-exponent).toNat)

def ofInt (n : Int) : Binary64 := ofRatio (n < 0) n.natAbs 1

/-- The absolute value as a quotient. -/
def ratio (mantissa : Nat) (exponent : Int) : Nat × Nat :=
  if 0 ≤ exponent then (mantissa * Nat.pow 2 exponent.toNat, 1)
  else (mantissa, Nat.pow 2 (-exponent).toNat)

/-! ### Arithmetic -/

def neg : Binary64 → Binary64
  | nan => nan
  | infinite s => infinite !s
  | finite s m e => finite (!s) m e

def isFinite : Binary64 → Bool
  | finite .. => true
  | _ => false

/-- A product, rounded once; zero times infinity is no number. -/
def mul : Binary64 → Binary64 → Binary64
  | nan, _ | _, nan => nan
  | infinite s, infinite s' => infinite (s ^^ s')
  | infinite s, finite s' m _ | finite s' m _, infinite s =>
    if m = 0 then nan else infinite (s ^^ s')
  | finite s m e, finite s' m' e' =>
    let (num, den) := ratio (m * m') (e + e')
    ofRatio (s ^^ s') num den

/-- A sum, rounded once; opposite infinities make no number, and a zero is negative only as the sum
of negative zeros. -/
def add : Binary64 → Binary64 → Binary64
  | nan, _ | _, nan => nan
  | infinite s, infinite s' => if s = s' then infinite s else nan
  | infinite s, finite .. | finite .., infinite s => infinite s
  | finite s m e, finite s' m' e' =>
    let low := min e e'
    let n := Numeral.signed s (m * Nat.pow 2 (e - low).toNat) +
      Numeral.signed s' (m' * Nat.pow 2 (e' - low).toNat)
    if n = 0 then zero (s && s')
    else
      let (num, den) := ratio n.natAbs low
      ofRatio (n < 0) num den

/-- Order of the numbers; nothing is above or below what is not a number. -/
def lt : Binary64 → Binary64 → Bool
  | .nan, _ => false
  | _, .nan => false
  | .infinite s, .infinite s' => s && !s'
  | .infinite s, .finite .. => s
  | .finite .., .infinite s => !s
  | .finite s m e, .finite s' m' e' =>
    let (a, b) := ratio m e
    let (c, d) := ratio m' e'
    Numeral.signed s (a * d) < Numeral.signed s' (c * b)

/-- The integer that the number is, if it is one. -/
def toInt? : Binary64 → Option Int
  | .finite s m e =>
    let (a, b) := ratio m e
    if a % b = 0 then some (Numeral.signed s (a / b)) else none
  | _ => none

/-- A number with a fixed count of decimal places. -/
def toFixed (places : Nat) : Binary64 → Text
  | .nan => "nan"
  | .infinite s => if s then "-inf" else "inf"
  | .finite s m e =>
    let (a, b) := ratio m e
    let n := roundDiv (a * Nat.pow 10 places) b
    (if s then [CodePoint.char '-'] else []) ++ Numeral.ofNat (n / Nat.pow 10 places) ++
      [.char '.'] ++ Numeral.padded places (n % Nat.pow 10 places)

/-- The greatest `k` with `10 ^ k ≤ num / den`, for a positive quotient. -/
def decimalExponent (num den : Nat) : Int :=
  let guess : Int := ((Nat.toDigits 10 num).length : Int) - (Nat.toDigits 10 den).length
  let reached := if 0 ≤ guess then den * Nat.pow 10 guess.toNat ≤ num
    else den ≤ num * Nat.pow 10 (-guess).toNat
  if reached then guess else guess - 1

/-- The decimal `digits * 10 ^ exponent` of at most `precision` digits that reads back as the number
and lies nearest to it. If any such decimal reads back, one of the two neighbours does. -/
def shortestAt? (m : Nat) (e : Int) (precision : Nat) : Option (Nat × Int) :=
  let (a, b) := ratio m e
  let exponent := decimalExponent a b - ((precision : Int) - 1)
  let (n, d) :=
    if 0 ≤ exponent then (a, b * Nat.pow 10 exponent.toNat)
    else (a * Nat.pow 10 (-exponent).toNat, b)
  let below := n / d
  let nearest := roundDiv n d
  let other := if nearest = below then below + 1 else below
  ([nearest, other].find? fun digits => ofDecimal false digits exponent = .finite false m e).map
    fun digits => (digits, exponent)

/-- Digits without trailing zeros, and the exponent of ten that belongs to them. -/
def trimZeros : Nat → Nat → Int → Nat × Int
  | 0, digits, exponent => (digits, exponent)
  | fuel + 1, digits, exponent =>
    if digits ≠ 0 ∧ digits % 10 = 0 then trimZeros fuel (digits / 10) (exponent + 1)
    else (digits, exponent)

/-- The shortest decimal that reads back: its digits and the exponent of ten. -/
def shortest (m : Nat) (e : Int) : Nat × Int :=
  match (List.range 17).findSome? fun p => shortestAt? m e (p + 1) with
  | some (digits, exponent) => trimZeros 20 digits exponent
  | none => (0, 0)

/-- The text of a finite number: positional from `1e-4` up to `1e16`, else with an exponent of at
least two digits. A whole number keeps one zero after the point. -/
def finiteText (m : Nat) (e : Int) : Text :=
  if m = 0 then "0.0"
  else
    let (digits, exponent) := shortest m e
    let ds := Numeral.ofNat digits
    let point : Int := ds.length + exponent
    if -4 < point ∧ point ≤ 16 then
      if point ≤ 0 then Text.ofString "0." ++ List.replicate (-point).toNat (.char '0') ++ ds
      else if exponent < 0 then
        ds.take point.toNat ++ [.char '.'] ++ ds.drop point.toNat
      else ds ++ List.replicate exponent.toNat (.char '0') ++ Text.ofString ".0"
    else
      let fraction := if ds.length = 1 then [] else .char '.' :: ds.drop 1
      let sign : CodePoint := if point < 1 then .char '-' else .char '+'
      ds.take 1 ++ fraction ++ [.char 'e', sign] ++ Numeral.padded 2 (point - 1).natAbs

end Binary64

end PromptTemplate
