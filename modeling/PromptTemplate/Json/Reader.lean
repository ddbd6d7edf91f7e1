import PromptTemplate.Data
import PromptTemplate.Text.Utf8

/-!
# Reading JSON

The grammar of JSON with three more numbers: `NaN`, `Infinity` and `-Infinity`. A number without
fraction and exponent is an integer of any size up to the longest numeral; any other number is the
nearest binary one. A repeated member keeps its first place and its last value. Two escapes that
make a surrogate pair are one character; a half of a pair that stands alone is kept. Lists and objects
stand inside one another up to a limit.
-/

namespace PromptTemplate.Json

inductive Fault where
  | malformed
  /-- An integer with too many digits. -/
  | tooLong (digits : Nat)
  /-- Too many lists and objects inside one another. -/
  | tooDeep
deriving DecidableEq

def isSpace (c : CodePoint) : Bool :=
  c = .char ' ' || c = .char '\t' || c = .char '\n' || c = .char '\r'

def skipSpace (t : Text) : Text := t.dropWhile isSpace

/-- The number that four hexadecimal digits write. -/
def hex4? : Text → Option Nat
  | a :: b :: c :: d :: _ => Numeral.toNat? 16 [a, b, c, d]
  | _ => none

/-- The second half of a surrogate pair, written as an escape at the head of a text. -/
def lowHalf? : Text → Option Nat
  | .char '\\' :: .char 'u' :: t => (hex4? t).filter fun n => 0xDC00 ≤ n ∧ n < 0xE000
  | _ => none

/-- The code point that an escape stands for, given what follows the backslash, and how many code
points of it belong to the escape. -/
def escape? : Text → Option (CodePoint × Nat)
  | .char '"' :: _ => some (.char '"', 1)
  | .char '\\' :: _ => some (.char '\\', 1)
  | .char '/' :: _ => some (.char '/', 1)
  | .char 'b' :: _ => some (.char '\x08', 1)
  | .char 'f' :: _ => some (.char '\x0c', 1)
  | .char 'n' :: _ => some (.char '\n', 1)
  | .char 'r' :: _ => some (.char '\r', 1)
  | .char 't' :: _ => some (.char '\t', 1)
  | .char 'u' :: t =>
    (hex4? t).bind fun high =>
      if 0xD800 ≤ high ∧ high < 0xDC00 then
        match lowHalf? (t.drop 4) with
        | some low =>
          (CodePoint.ofNat? (0x10000 + (high - 0xD800) * 0x400 + (low - 0xDC00))).map (·, 11)
        | none => (CodePoint.ofNat? high).map (·, 5)
      else (CodePoint.ofNat? high).map (·, 5)
  | _ => none

/-- Read on inside a string after the first `skip` code points: its text up to the closing quote,
and what follows. -/
def stringFrom : Nat → Text → Option (Text × Text)
  | _, [] => none
  | skip + 1, _ :: t => stringFrom skip t
  | 0, c :: t =>
    if c = .char '"' then some ([], t)
    else if c = .char '\\' then
      (escape? t).bind fun (x, n) => (stringFrom n t).map fun (s, rest) => (x :: s, rest)
    else if c.toNat < 0x20 then none
    else (stringFrom 0 t).map fun (s, rest) => (c :: s, rest)

/-- The digits of a fraction after its point, and what follows; nothing where there is none. -/
def fraction (t : Text) : Text × Text :=
  match t with
  | .char '.' :: u => if (Numeral.spanDigits u).1.isEmpty then ([], t) else Numeral.spanDigits u
  | _ => ([], t)

/-- The value of a power of ten after its mark, and what follows. -/
def exponent? (t : Text) : Option (Int × Text) :=
  match t with
  | .char e :: u =>
    if e = 'e' ∨ e = 'E' then
      let (negative, v) := Numeral.takeSign u
      let (digits, rest) := Numeral.spanDigits v
      (Numeral.toNat? 10 digits).map fun n => (Numeral.signed negative n, rest)
    else none
  | _ => none

/-- A number at the head of a text. -/
def number (t : Text) : Except Fault (Data × Text) :=
  let (negative, u) := match t with
    | .char '-' :: u => (true, u)
    | _ => (false, t)
  let (whole, rest) := match u with
    | .char '0' :: v => ([CodePoint.char '0'], v)
    | _ => Numeral.spanDigits u
  match Numeral.toNat? 10 whole with
  | none => .error .malformed
  | some n =>
    let (places, rest) := fraction rest
    match exponent? rest with
    | some (e, rest) =>
      let digits := (Numeral.toNat? 10 (whole ++ places)).getD n
      .ok (.real (Binary64.ofDecimal negative digits (e - places.length)), rest)
    | none =>
      if places.isEmpty then
        if whole.length ≤ Numeral.maxDigits then .ok (.int (Numeral.signed negative n), rest)
        else .error (.tooLong whole.length)
      else
        let digits := (Numeral.toNat? 10 (whole ++ places)).getD n
        .ok (.real (Binary64.ofDecimal negative digits (-(places.length : Int))), rest)

/-- The values that are written as words. -/
def words : List (Text × Data) := [
  ("null", .null), ("true", .bool true), ("false", .bool false), ("NaN", .real .nan),
  ("Infinity", .real (.infinite false)), ("-Infinity", .real (.infinite true))]

/-- How many lists and objects may stand inside one another. This is no rule of JSON but what the stack
of one runtime holds, the one that the service and the command line run on; the number is used for
nothing else. -/
def maxDepth : Nat := 9990

mutual
/-- A value at the head of a text, and what follows; `room` is how many lists and objects may still
stand inside one another. Every level of nesting and every step along a list takes one unit of
fuel. -/
def value : Nat → Nat → Text → Except Fault (Data × Text)
  | 0, _, _ => .error .malformed
  | fuel + 1, room, t =>
    match t with
    | .char '"' :: u =>
      match stringFrom 0 u with
      | some (s, rest) => .ok (.text s, rest)
      | none => .error .malformed
    | .char '[' :: u =>
      match room with
      | 0 => .error .tooDeep
      | room + 1 =>
        match skipSpace u with
        | .char ']' :: rest => .ok (.list [], rest)
        | v => (items fuel room v).map fun (ds, rest) => (.list ds, rest)
    | .char '{' :: u =>
      match room with
      | 0 => .error .tooDeep
      | room + 1 =>
        match skipSpace u with
        | .char '}' :: rest => .ok (.map [], rest)
        | v => (members fuel room [] v).map fun (ms, rest) => (.map ms, rest)
    | _ =>
      match words.find? fun w => w.1.isPrefixOf t with
      | some w => .ok (w.2, t.drop w.1.length)
      | none => number t

/-- The items of a list up to its closing bracket. -/
def items : Nat → Nat → Text → Except Fault (List Data × Text)
  | 0, _, _ => .error .malformed
  | fuel + 1, room, t =>
    match value fuel room t with
    | .error f => .error f
    | .ok (d, u) =>
      match skipSpace u with
      | .char ']' :: rest => .ok ([d], rest)
      | .char ',' :: v => (items fuel room (skipSpace v)).map fun (ds, rest) => (d :: ds, rest)
      | _ => .error .malformed

/-- The members of an object up to its closing brace, after those already read. -/
def members : Nat → Nat → List (Text × Data) → Text →
    Except Fault (List (Text × Data) × Text)
  | 0, _, _, _ => .error .malformed
  | fuel + 1, room, known, t =>
    match t with
    | .char '"' :: u =>
      match stringFrom 0 u with
      | none => .error .malformed
      | some (key, u) =>
        match skipSpace u with
        | .char ':' :: v =>
          match value fuel room (skipSpace v) with
          | .error f => .error f
          | .ok (d, v) =>
            match skipSpace v with
            | .char '}' :: rest => .ok (Table.set known key d, rest)
            | .char ',' :: w => members fuel room (Table.set known key d) (skipSpace w)
            | _ => .error .malformed
        | _ => .error .malformed
    | _ => .error .malformed
end

/-- The value of a whole text. -/
def read (t : Text) : Except Fault Data :=
  match value (2 * t.length + 2) maxDepth (skipSpace t) with
  | .error f => .error f
  | .ok (d, rest) => if (skipSpace rest).isEmpty then .ok d else .error .malformed

end PromptTemplate.Json
