import PromptTemplate.Text.Quoted

/-!
# Faults of YAML

A stream has no value if it breaks the rules of the language, or if one of its scalars has no value
of the type it claims or shows.
-/

namespace PromptTemplate.Yaml

/-- What is out of range in a point in time. -/
inductive TimeFault where
  /-- The distance from universal time, in minutes. -/
  | offset (minutes : Int)
  | year
  | month
  | day
  | hour
  | minute
  | second
deriving DecidableEq

/-- Why a scalar has no value. -/
inductive ValueFault where
  | notInt (base : Nat) (t : Text)
  /-- An integer with too many digits. -/
  | tooLong (digits : Nat)
  | notReal (t : Text)
  /-- No number, for want of any character or of any after the sign. -/
  | noNumber
  | notBool (t : Text)
  | notTime
  /-- A point in time that is given by a mapping. -/
  | notText
  /-- A unit of base sixty that is no real number any more. -/
  | tooLarge
  /-- Nodes inside one another without end, or too many of them. -/
  | tooDeep
  | time (f : TimeFault)
  /-- A numeric escape for which there is no code point. -/
  | escape (n : Nat)
deriving DecidableEq

inductive Fault where
  | malformed
  | value (f : ValueFault)
deriving DecidableEq

/-- A duration in minutes as it is written in a message. -/
def durationText (minutes : Int) : Text :=
  let days := minutes / 1440
  let seconds := minutes % 1440 * 60
  let parts : List Text :=
    (if days = 0 then [] else [Text.ofString "days=" ++ Numeral.ofInt days]) ++
      (if seconds = 0 then [] else [Text.ofString "seconds=" ++ Numeral.ofInt seconds])
  Text.ofString "datetime.timedelta(" ++ Text.joinWith ", " parts ++ [.char ')']

def TimeFault.message : TimeFault → Text
  | offset minutes =>
    Text.ofString "offset must be a timedelta strictly between -timedelta(hours=24) and " ++
      Text.ofString "timedelta(hours=24), not " ++ durationText minutes ++ [.char '.']
  | year => "year 0 is out of range"
  | month => "month must be in 1..12"
  | day => "day is out of range for month"
  | hour => "hour must be in 0..23"
  | minute => "minute must be in 0..59"
  | second => "second must be in 0..59"

namespace ValueFault

/-- The first number that is too large for an escape to be looked up at all. -/
def escapeBound : Nat := Nat.pow 2 31

/-- How much of a quoted text is shown where it is no integer. -/
def shownLength : Nat := 200

def message : ValueFault → Text
  | notInt base t =>
    Text.ofString "invalid literal for int() with base " ++ Numeral.ofNat base ++
      Text.ofString ": " ++ (Quoted.ofText t).take shownLength
  | tooLong digits => Numeral.tooLongText digits
  | notReal t => Text.ofString "could not convert string to float: " ++ Quoted.ofText t
  | noNumber => "string index out of range"
  | notBool t => Quoted.ofText t
  | notTime => "'NoneType' object has no attribute 'groupdict'"
  | notText => "expected string or bytes-like object, got 'list'"
  | tooLarge => "int too large to convert to float"
  | tooDeep => "maximum recursion depth exceeded"
  | time f => f.message
  | escape n =>
    if n < escapeBound then "chr() arg not in range(0x110000)"
    else "Python int too large to convert to C int"

/-- Whether the fault counts as a refusal of the value. For the others a reader of files is not
prepared. -/
def isRefusal : ValueFault → Bool
  | noNumber | notBool _ | notTime | notText | tooLarge | tooDeep => false
  | escape n => n < escapeBound
  | _ => true

end ValueFault

end PromptTemplate.Yaml
