import PromptTemplate.Data
import PromptTemplate.Text.Case
import PromptTemplate.Yaml.Fault

/-!
# Typed scalars

The core types of YAML 1.1: how an untagged plain scalar shows its type, and the value of a scalar
of each type. Whole numbers may be binary, octal, hexadecimal or in base sixty, and underscores are
left out of numbers.
-/

namespace PromptTemplate.Yaml

inductive Tag where
  | null
  | bool
  | int
  | float
  | str
  | binary
  | timestamp
  | omap
  | pairs
  | set
  | seq
  | map
  | merge
  | value
  | other
deriving DecidableEq, Inhabited

namespace Tag

/-- What the tags of the core types begin with. -/
def coreStart : Text := "tag:yaml.org,2002:"

def core : List (Text × Tag) := [
  ("null", .null), ("bool", .bool), ("int", .int), ("float", .float), ("str", .str),
  ("binary", .binary), ("timestamp", .timestamp), ("omap", .omap), ("pairs", .pairs),
  ("set", .set), ("seq", .seq), ("map", .map), ("merge", .merge), ("value", .value)]

def ofText (t : Text) : Tag :=
  ((core.find? fun e => coreStart ++ e.1 = t).map Prod.snd).getD .other

end Tag

namespace Scalar

/-! ### Patterns -/

def isUnderscoreOr (p : CodePoint → Bool) (c : CodePoint) : Bool := p c || c = .char '_'

/-- Digits and underscores after a first digit. -/
def isDigits (t : Text) : Bool :=
  (t.head?.map (·.isDigit)).getD false && t.all (isUnderscoreOr (·.isDigit))

/-- A text without the line feed that may end it. -/
def withoutFinalBreak (t : Text) : Text :=
  if t.getLast? = some (.char '\n') then t.dropLast else t

def dropSign (t : Text) : Text := (Numeral.takeSign t).2

/-- One or two digits that count at most fifty-nine. -/
def isSixtieth : Text → Bool
  | [a] => a.isDigit
  | [a, b] => a.isDigit && b.isDigit && a.toNat < 54
  | _ => false

/-- Digits, and after them at least one colon with a sixtieth. -/
def isBaseSixty (t : Text) : Bool :=
  match t.splitOn (.char ':') with
  | first :: next :: rest => isDigits first && (next :: rest).all isSixtieth
  | _ => false

/-- A digit of a numeral in a base, for a base with a mark in front. -/
def isDigitOf (base : Nat) : CodePoint → Bool :=
  isUnderscoreOr fun c => (Numeral.digit? base c).isSome

def isInt (t : Text) : Bool :=
  match dropSign t with
  | .char '0' :: [] => true
  | .char '0' :: .char 'b' :: r => !r.isEmpty && r.all (isDigitOf 2)
  | .char '0' :: .char 'x' :: r => !r.isEmpty && r.all (isDigitOf 16)
  | .char '0' :: r => r.all (isDigitOf 8)
  | r => isDigits r || isBaseSixty r

/-- A power of ten with its sign, or nothing. -/
def isPower : Text → Bool
  | [] => true
  | .char e :: .char s :: r =>
    (e = 'e' || e = 'E') && (s = '+' || s = '-') && !r.isEmpty && r.all (·.isDigit)
  | _ => false

/-- What follows the point of a fraction. -/
def isFraction (t : Text) : Bool := isPower (t.dropWhile (isUnderscoreOr (·.isDigit)))

def isFloat (t : Text) : Bool :=
  let r := dropSign t
  let whole := r.takeWhile (· ≠ .char '.')
  match r.dropWhile (· ≠ .char '.') with
  | _ :: places =>
    (isDigits whole && isFraction places) ||
    (isBaseSixty whole && places.all (isUnderscoreOr (·.isDigit))) ||
    (t.head? = some (.char '.') && (places.head?.map (·.isDigit)).getD false &&
      isFraction places) ||
    (r.head? = some (.char '.') && [("inf" : Text), "Inf", "INF"].contains places) ||
    (t.head? = some (.char '.') && [("nan" : Text), "NaN", "NAN"].contains places)
  | [] => false

def boolWords : List (Text × Bool) := [
  ("yes", true), ("no", false), ("true", true), ("false", false), ("on", true), ("off", false)]

/-- A word in lower case, with a first capital or in capitals. -/
def isCased (word t : Text) : Bool :=
  t.toLowerAscii = word &&
    ((t.drop 1).all (fun c => c = c.toLowerAscii) || t.all fun c => c ≠ c.toLowerAscii)

def isBool (t : Text) : Bool := boolWords.any fun w => isCased w.1 t

def isNull (t : Text) : Bool := t.isEmpty || t = "~" || isCased "null" t

/-! ### Points in time -/

/-- A date, and the time of day and the offset in minutes where they are given. -/
structure Stamp where
  year : Nat
  month : Nat
  day : Nat
  time : Option (Nat × Nat × Nat)
  offset : Option Int

/-- A number of between `least` and `most` digits at the head of a text. -/
def digits? (least most : Nat) (t : Text) : Option (Nat × Text) :=
  let ds := (t.take most).takeWhile (·.isDigit)
  if least ≤ ds.length then (Numeral.toNat? 10 ds).map fun n => (n, t.drop ds.length) else none

/-- A character at the head of a text. -/
def after? (x : Char) : Text → Option Text
  | c :: t => if c = .char x then some t else none
  | [] => none

def isStampGap (c : CodePoint) : Bool := c = .char ' ' || c = .char '\t'

/-- The offset at the end of a time. -/
def offset? (t : Text) : Option (Option Int) :=
  match t.dropWhile isStampGap with
  | [] => if t.isEmpty then some none else none
  | [.char 'Z'] => some none
  | c :: r =>
    if c = .char '+' ∨ c = .char '-' then do
      let (h, r) ← digits? 1 2 r
      let m ← (match r with
        | [] => some 0
        | _ => (after? ':' r).bind fun r => (digits? 2 2 r).bind fun (m, r) =>
          if r.isEmpty then some m else none)
      some (some (Numeral.signed (c = .char '-') (h * 60 + m)))
    else none

/-- A time of day with its offset. -/
def time? (t : Text) : Option ((Nat × Nat × Nat) × Option Int) := do
  let t ← (match t with
    | .char 'T' :: r | .char 't' :: r => some r
    | c :: _ => if isStampGap c then some (t.dropWhile isStampGap) else none
    | [] => none)
  let (h, t) ← digits? 1 2 t
  let (m, t) ← (after? ':' t).bind (digits? 2 2)
  let (s, t) ← (after? ':' t).bind (digits? 2 2)
  let t := match t with
    | .char '.' :: r => r.dropWhile (·.isDigit)
    | _ => t
  let offset ← offset? t
  some ((h, m, s), offset)

/-- A date with or without a time. -/
def stamp? (t : Text) : Option Stamp := do
  let (year, t) ← digits? 4 4 t
  let (month, t) ← (after? '-' t).bind (digits? 1 2)
  let (day, t) ← (after? '-' t).bind (digits? 1 2)
  if t.isEmpty then some ⟨year, month, day, none, none⟩
  else
    let (time, offset) ← time? t
    some ⟨year, month, day, some time, offset⟩

/-- A date alone must have two digits for the month and the day to show its type. -/
def isTimestamp (t : Text) : Bool :=
  match stamp? t with
  | some s => s.time.isSome || t.length = 10
  | none => false

end Scalar

/-- The type that a text without a final line feed shows. Marks that begin other lexemes have a type
without values. -/
def Tag.ofLine (t : Text) : Tag :=
  if Scalar.isBool t then .bool
  else if Scalar.isFloat t then .float
  else if Scalar.isInt t then .int
  else if t = "<<" then .merge
  else if Scalar.isNull t then .null
  else if Scalar.isTimestamp t then .timestamp
  else if t = "=" then .value
  else if t = "!" ∨ t = "&" ∨ t = "*" then .other
  else .str

/-- The type that a plain scalar shows. One final line feed does not count, but where there is
nothing else the scalar is text. -/
def Tag.ofPlain (t : Text) : Tag :=
  if t = "\n" then .str else Tag.ofLine (Scalar.withoutFinalBreak t)

namespace Scalar

/-! ### Values -/

/-- An integer in a base, or what is said of a text that is none. -/
def basedInt (base : Nat) (t : Text) : Except Fault Int :=
  match Numeral.looseInt base t with
  | .ok n => .ok n
  | .error .notInt => .error (.value (.notInt base t))
  | .error (.tooLong digits) => .error (.value (.tooLong digits))

/-- The value of digits in base sixty, the most significant first. -/
def baseSixty (parts : List Int) : Int := parts.foldl (fun n d => n * 60 + d) 0

def withoutUnderscores (t : Text) : Text := t.filter (· ≠ .char '_')

/-- The sign in front of a number, and what follows it; there must be something. -/
def sign (t : Text) : Except Fault (Bool × Text) :=
  match t with
  | [] => .error (.value .noNumber)
  | _ => .ok (Numeral.takeSign t)

def intValue (t : Text) : Except Fault Int := do
  let (negative, r) ← sign (withoutUnderscores t)
  let n ← (match r with
    | [] => .error (.value .noNumber)
    | .char '0' :: [] => .ok 0
    | .char '0' :: .char 'b' :: ds => basedInt 2 ds
    | .char '0' :: .char 'x' :: ds => basedInt 16 ds
    | .char '0' :: _ => basedInt 8 r
    | _ =>
      if r.contains (.char ':') then baseSixty <$> (r.splitOn (.char ':')).mapM (basedInt 10)
      else basedInt 10 r : Except Fault Int)
  .ok (if negative then -n else n)

/-- A decimal fraction as digits and the power of ten they are counted in. -/
def decimalReal? (t : Text) : Option (Nat × Int) := do
  let (whole, r) := Numeral.spanDigits t
  let (places, r) := match r with
    | .char '.' :: u => Numeral.spanDigits u
    | _ => ([], r)
  let digits ← Numeral.toNat? 10 (whole ++ places)
  let power ← (match r with
    | [] => some 0
    | .char e :: u =>
      if e = 'e' ∨ e = 'E' then
        let (negative, ds) := Numeral.takeSign u
        if ds.all CodePoint.isDigit then (Numeral.toNat? 10 ds).map (Numeral.signed negative)
        else none
      else none
    | _ => none : Option Int)
  some (digits, power - places.length)

/-- A real number written for the eye, in lower case: white space around it, a sign, digits of any
script and words for what is not finite are allowed. -/
def looseReal (t : Text) : Except Fault Binary64 :=
  let (negative, r) := Numeral.takeSign (Numeral.trimmed t)
  if r = "inf" ∨ r = "infinity" then .ok (.infinite negative)
  else if r = "nan" then .ok .nan
  else
    match decimalReal? r with
    | some (digits, power) => .ok (Binary64.ofDecimal negative digits power)
    | none => .error (.value (.notReal t))

/-- The sum of parts in base sixty, the least significant first, `unit` being what the next part
counts. Every step is rounded, and the unit must not outgrow the numbers. -/
def addSixtieths (sum : Binary64) (unit : Nat) : List Binary64 → Except Fault Binary64
  | [] => .ok sum
  | x :: xs =>
    let weight := Binary64.ofInt unit
    if weight.isFinite then addSixtieths (sum.add (x.mul weight)) (unit * 60) xs
    else .error (.value .tooLarge)

def realValue (t : Text) : Except Fault Binary64 := do
  let (negative, r) ← sign (withoutUnderscores t).lower
  let x ← (
    if r = ".inf" then .ok (.infinite false)
    else if r = ".nan" then .ok .nan
    else if r.contains (.char ':') then do
      let parts ← (r.splitOn (.char ':')).mapM looseReal
      addSixtieths (.zero false) 1 parts.reverse
    else looseReal r : Except Fault Binary64)
  .ok (if negative then x.neg else x)

def boolValue (t : Text) : Except Fault Bool :=
  match boolWords.find? fun w => w.1 = t.lower with
  | some w => .ok w.2
  | none => .error (.value (.notBool t.lower))

def isLeap (year : Nat) : Bool := year % 4 = 0 && (year % 100 ≠ 0 || year % 400 = 0)

def daysIn (year month : Nat) : Nat :=
  if month = 2 then (if isLeap year then 29 else 28)
  else if month ∈ [4, 6, 9, 11] then 30 else 31

/-- What is out of range in a point in time: the offset is looked at first. -/
def Stamp.fault? (s : Stamp) : Option TimeFault :=
  match s.offset.filter fun m => 1440 ≤ m.natAbs with
  | some m => some (.offset m)
  | none =>
    if s.year = 0 then some .year
    else if s.month < 1 ∨ 12 < s.month then some .month
    else if s.day < 1 ∨ daysIn s.year s.month < s.day then some .day
    else
      match s.time with
      | none => none
      | some (h, m, sec) =>
        if 23 < h then some .hour
        else if 59 < m then some .minute
        else if 59 < sec then some .second
        else none

/-- What is wrong with a point in time, which one line feed may end. -/
def checkTimestamp (t : Text) : Except Fault Unit :=
  match stamp? (withoutFinalBreak t) with
  | none => .error (.value .notTime)
  | some s =>
    match s.fault? with
    | some f => .error (.value (.time f))
    | none => .ok ()

/-- The value of a character in base sixty-four. -/
def base64Digit? (c : CodePoint) : Option Nat :=
  let n := c.toNat
  if 65 ≤ n ∧ n ≤ 90 then some (n - 65)
  else if 97 ≤ n ∧ n ≤ 122 then some (n - 71)
  else if 48 ≤ n ∧ n ≤ 57 then some (n + 4)
  else if n = 43 then some 62 else if n = 47 then some 63 else none

/-- The bytes of text in base sixty-four. Other characters are passed over; `held` are the bits that
have not made a byte yet, `count` the digits of the group so far, `padding` the equals signs. -/
def base64From (held count padding : Nat) : Text → Option (List UInt8)
  | [] => if count = 0 then some [] else none
  | c :: t =>
    if c = .char '=' then
      if 2 ≤ count ∧ 4 ≤ count + padding + 1 then some []
      else base64From held count (padding + 1) t
    else
      match base64Digit? c with
      | none => base64From held count padding t
      | some d =>
        match count with
        | 0 => base64From d 1 0 t
        | 1 => (base64From (d % 16) 2 0 t).map (UInt8.ofNat (held * 4 + d / 16) :: ·)
        | 2 => (base64From (d % 4) 3 0 t).map (UInt8.ofNat (held * 16 + d / 4) :: ·)
        | _ => (base64From 0 0 0 t).map (UInt8.ofNat (held * 64 + d) :: ·)

def binaryValue (t : Text) : Except Fault (List UInt8) :=
  if t.all fun c => c.toNat < 0x80 then
    match base64From 0 0 0 t with
    | some bs => .ok bs
    | none => .error .malformed
  else .error .malformed

/-- The value of a scalar with a tag. -/
def toData (tag : Tag) (t : Text) : Except Fault Data :=
  match tag with
  | .null => .ok .null
  | .bool => Data.bool <$> boolValue t
  | .int => Data.int <$> intValue t
  | .float => Data.real <$> realValue t
  | .str => .ok (.text t)
  | .binary => Data.bytes <$> binaryValue t
  | .timestamp => (checkTimestamp t).map fun _ => .other false
  | _ => .error .malformed

end Scalar

end PromptTemplate.Yaml
