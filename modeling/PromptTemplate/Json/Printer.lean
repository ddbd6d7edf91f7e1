import PromptTemplate.Data

/-!
# Writing JSON

A style fixes the blanks between the parts and whether code points outside ASCII are escaped. Every
style writes empty lists and objects without blanks inside.
-/

namespace PromptTemplate.Json

/-- How the parts of a JSON text are set. -/
structure Style where
  /-- Blanks per level of nesting, each part on its own line; nothing puts all on one line. -/
  indent : Option Nat
  itemSeparator : Text
  keySeparator : Text
  /-- Escape everything outside ASCII. -/
  asciiOnly : Bool

/-- Two blanks per level; only what JSON demands is escaped. -/
def Style.indented : Style := ⟨some 2, ",", ": ", false⟩

/-- All on one line without blanks; only what JSON demands is escaped. -/
def Style.compact : Style := ⟨none, ",", ":", false⟩

/-- All on one line, in ASCII. -/
def Style.ascii : Style := ⟨none, ", ", ": ", true⟩

/-- The escape of a number below `0x10000`. -/
def unicodeEscape (n : Nat) : Text := Text.ofString "\\u" ++ Numeral.hex 4 n

/-- A code point inside a string. -/
def quotePoint (asciiOnly : Bool) (c : CodePoint) : Text :=
  if c = .char '"' then [.char '\\', .char '"']
  else if c = .char '\\' then [.char '\\', .char '\\']
  else if c = .char '\n' then [.char '\\', .char 'n']
  else if c = .char '\r' then [.char '\\', .char 'r']
  else if c = .char '\t' then [.char '\\', .char 't']
  else if c = .char '\x08' then [.char '\\', .char 'b']
  else if c = .char '\x0c' then [.char '\\', .char 'f']
  else if c.toNat < 0x20 then unicodeEscape c.toNat
  else if asciiOnly && 0x7F ≤ c.toNat then
    if c.toNat < 0x10000 then unicodeEscape c.toNat
    else
      let n := c.toNat - 0x10000
      unicodeEscape (0xD800 + n / 0x400) ++ unicodeEscape (0xDC00 + n % 0x400)
  else [c]

/-- A text in quotes. -/
def quote (asciiOnly : Bool) (t : Text) : Text :=
  [.char '"'] ++ t.flatMap (quotePoint asciiOnly) ++ [.char '"']

def realText : Binary64 → Text
  | .nan => "NaN"
  | .infinite s => if s then "-Infinity" else "Infinity"
  | .finite s m e => (if s then [CodePoint.char '-'] else []) ++ Binary64.finiteText m e

/-- The start of a line at a level of nesting. -/
def newLine (style : Style) (level : Nat) : Text :=
  match style.indent with
  | some n => .char '\n' :: List.replicate (n * level) (.char ' ')
  | none => []

/-- The parts of a list or an object between its brackets. -/
def bracket (style : Style) (level : Nat) (opening closing : Char) (parts : List Text) : Text :=
  if parts.isEmpty then [.char opening, .char closing]
  else
    let separator := style.itemSeparator ++ newLine style (level + 1)
    [.char opening] ++ newLine style (level + 1) ++ Text.joinWith separator parts ++
      newLine style level ++ [.char closing]

mutual
/-- The text of a value that stands at a level of nesting. Bytes and other values that JSON does not
know are written as null. -/
def writeAt (style : Style) (level : Nat) : Data → Text
  | .null | .bytes _ | .other _ => "null"
  | .bool b => if b then "true" else "false"
  | .int n => Numeral.ofInt n
  | .real x => realText x
  | .text t => quote style.asciiOnly t
  | .list items => bracket style level '[' ']' (writeItems style (level + 1) items)
  | .map members => bracket style level '{' '}' (writeMembers style (level + 1) members)

def writeItems (style : Style) (level : Nat) : List Data → List Text
  | [] => []
  | d :: ds => writeAt style level d :: writeItems style level ds

def writeMembers (style : Style) (level : Nat) : List (Text × Data) → List Text
  | [] => []
  | (k, d) :: ms =>
    (quote style.asciiOnly k ++ style.keySeparator ++ writeAt style level d) ::
      writeMembers style level ms
end

mutual
/-- Whether all integers in a value are short enough to be written. -/
def isWritable : Data → Bool
  | .int n => (Numeral.ofNat n.natAbs).length ≤ Numeral.maxDigits
  | .list items => areWritable items
  | .map members => membersAreWritable members
  | _ => true

def areWritable : List Data → Bool
  | [] => true
  | d :: ds => isWritable d && areWritable ds

def membersAreWritable : List (Text × Data) → Bool
  | [] => true
  | (_, d) :: ms => isWritable d && membersAreWritable ms
end

/-- The text of a value. -/
def write (style : Style) (d : Data) : Text := writeAt style 0 d

/-! ### Values that cannot be written -/

inductive WriteFault where
  /-- A value of a kind that JSON does not know. -/
  | unknownKind (kind : Text)
  /-- An integer with too many digits. -/
  | tooLong
  /-- Too many lists and objects inside one another. -/
  | tooDeep
deriving DecidableEq

namespace WriteFault

def message : WriteFault → Text
  | unknownKind kind =>
    Text.ofString "Object of type " ++ kind ++ Text.ofString " is not JSON serializable"
  | tooLong => Numeral.tooLongToWriteText
  | tooDeep => "maximum recursion depth exceeded"

/-- Whether the fault counts as a refusal of the value. -/
def isRefusal : WriteFault → Bool
  | tooLong => true
  | unknownKind _ | tooDeep => false

end WriteFault

mutual
/-- The first part of a value that cannot be written, where `room` lists and objects may stand inside
one another. What an `other` value is called is not kept. -/
def writeFault? (room : Nat) : Data → Option WriteFault
  | .null | .bool _ | .real _ | .text _ => none
  | .int n =>
    if (Numeral.ofNat n.natAbs).length ≤ Numeral.maxDigits then none else some .tooLong
  | .bytes _ => some (.unknownKind "bytes")
  | .other _ => some (.unknownKind "object")
  | .list items =>
    match room with
    | 0 => some .tooDeep
    | room + 1 => itemsFault? room items
  | .map members =>
    match room with
    | 0 => some .tooDeep
    | room + 1 => membersFault? room members

def itemsFault? (room : Nat) : List Data → Option WriteFault
  | [] => none
  | d :: ds => (writeFault? room d).or (itemsFault? room ds)

def membersFault? (room : Nat) : List (Text × Data) → Option WriteFault
  | [] => none
  | (_, d) :: ms => (writeFault? room d).or (membersFault? room ms)
end

/-- The text of a value that can be written. -/
def dump (room : Nat) (style : Style) (d : Data) : Except WriteFault Text :=
  match writeFault? room d with
  | some f => .error f
  | none => .ok (write style d)

end PromptTemplate.Json
