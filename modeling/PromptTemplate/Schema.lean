import PromptTemplate.Data
import PromptTemplate.Text.Utf8

/-!
# Lenient readers

Readers that turn data into typed values. They are lenient about spelling: a number may be written
as text, a flag as a word or as zero or one, text as UTF-8 bytes. They are strict about structure: a
record admits no member it does not know, and where a member has several names the first name that
is present counts and the others are unknown.
-/

namespace PromptTemplate.Schema

def text? : Data → Option Text
  | .text t => some t
  | .bytes bs => (Utf8.decode bs).toOption
  | _ => none

/-- A value that may be null. -/
def orNull? {α : Type} (read : Data → Option α) : Data → Option (Option α)
  | .null => some none
  | d => (read d).map some

/-- Whether a code point is one of the digits one to nine. -/
def isNonzeroDigit (c : CodePoint) : Bool := c.isDigit && c ≠ .char '0'

/-- The rest of a numeral after leading zeros, `last` being the one before it. A zero stays where no
other digit follows. -/
def dropZeros (last : CodePoint) : Text → Option Text
  | [] => some [last]
  | c :: t =>
    if c = .char '0' ∨ c = .char '_' then dropZeros c t
    else if isNonzeroDigit c || c = .char '-' then some (c :: t)
    else if c = .char '.' then some (last :: c :: t)
    else none

/-- A numeral without leading zeros. A minus sign may stand at its head and after the zeros. -/
def withoutZeros? : Text → Option Text
  | [] => none
  | c :: t =>
    if c = .char '0' then dropZeros c t
    else if isNonzeroDigit c || c = .char '-' then some (c :: t)
    else none

/-- A numeral without a fraction of zeros. -/
def withoutFraction (t : Text) : Text :=
  match t.dropWhile (· ≠ .char '.') with
  | _ :: zeros =>
    if !zeros.isEmpty && zeros.all (· = .char '0') then t.takeWhile (· ≠ .char '.') else t
  | [] => t

/-- A numeral without its underscores, which stand alone and inside. -/
def withoutUnderscores? (t : Text) : Option Text :=
  if t.head? = some (.char '_') ∨ t.getLast? = some (.char '_') ∨ t.has "__" then none
  else some (t.filter (· ≠ .char '_'))

/-- The integer of a strict numeral: no leading zero, with its sign not longer than the longest
numeral. -/
def strictInt? (t : Text) : Option Int :=
  let (negative, digits) := match t with
    | .char '-' :: u => (true, u)
    | _ => (false, t)
  if t.length ≤ Numeral.maxDigits ∧ (digits.head? = some (.char '0') → digits.length = 1) then
    (Numeral.toNat? 10 digits).map (Numeral.signed negative)
  else none

/-- A numeral without its plus sign and leading zeros; a minus sign stays in front. -/
def unpadded? : Text → Option Text
  | .char '-' :: t => (withoutZeros? t).map (.char '-' :: ·)
  | .char '+' :: .char '-' :: _ => none
  | .char '+' :: t => withoutZeros? t
  | t => withoutZeros? t

/-- An integer written as text: white space around it, a sign, leading zeros, underscores between
digits and a fraction of zeros are allowed. -/
def intOfText? (t : Text) : Option Int :=
  ((unpadded? (t.trimBy CodePoint.isWhiteSpace)).map withoutFraction).bind fun u =>
    (withoutUnderscores? u).bind strictInt?

/-- A whole number within the range of a 64-bit word, its ends left out. -/
def intOfReal? (x : Binary64) : Option Int :=
  x.toInt?.filter fun n => -Int.pow 2 63 < n ∧ n < Int.pow 2 63

def int? : Data → Option Int
  | .int n => some n
  | .bool b => some (if b then 1 else 0)
  | .real x => intOfReal? x
  | .text t => intOfText? t
  | .bytes bs => (Utf8.decode bs).toOption.bind intOfText?
  | _ => none

def trueWords : List Text := ["true", "t", "yes", "y", "on", "1"]

def falseWords : List Text := ["false", "f", "no", "n", "off", "0"]

/-- A flag written as a word in any ASCII case. -/
def boolOfText? (t : Text) : Option Bool :=
  if trueWords.contains t.toLowerAscii then some true
  else if falseWords.contains t.toLowerAscii then some false
  else none

/-- Zero and one as flags. -/
def boolOfInt? (n : Int) : Option Bool :=
  if n = 1 then some true else if n = 0 then some false else none

def bool? : Data → Option Bool
  | .bool b => some b
  | .int n => boolOfInt? n
  | .real x => x.toInt?.bind boolOfInt?
  | .text t => boolOfText? t
  | .bytes bs => (Utf8.decode bs).toOption.bind boolOfText?
  | _ => none

/-- A list of values that all can be read. -/
def list? {α : Type} (read : Data → Option α) : Data → Option (List α)
  | .list items => items.mapM read
  | _ => none

/-- A member that must be present. -/
def required {α : Type} (read : Data → Option α) (member : Option Data) : Option α :=
  member.bind read

/-- A member that may be missing. -/
def withDefault {α : Type} (default : α) (read : Data → Option α) : Option Data → Option α
  | none => some default
  | some d => read d

/-- The first of several names that a mapping has. -/
def presentName? (members : List (Text × Data)) (names : List Text) : Option Text :=
  names.find? fun name => (Table.get? members name).isSome

/-- The members of a record, each given by its names in order of precedence. -/
def record? (names : List (List Text)) : Data → Option (List (Option Data))
  | .map members =>
    let used := names.map (presentName? members)
    if (Table.keys members).all fun key => used.contains (some key) then
      some (used.map fun name => name.bind (Table.get? members))
    else none
  | _ => none

/-- Whether a value counts as given: not null, zero, false or empty. -/
def isGiven : Data → Bool
  | .null => false
  | .bool b => b
  | .int n => n ≠ 0
  | .real x => x.toInt? ≠ some 0
  | .text t => !t.isEmpty
  | .bytes bs => !bs.isEmpty
  | .list items => !items.isEmpty
  | .map members => !members.isEmpty
  | .other _ => true

end PromptTemplate.Schema
