import PromptTemplate.Number.Numeral

/-!
# UTF-8

Encoding a text fails at its first lone surrogate. Decoding stops at the first sequence that is not
well formed and says which bytes are at fault: the longest beginning of a well-formed sequence, or
one byte that begins none. A lenient decoder also accepts the three bytes that a surrogate would
have.
-/

namespace PromptTemplate.Utf8

/-- The bytes of a code point, the surrogates included. -/
def encodePoint (c : CodePoint) : List UInt8 :=
  let n := c.toNat
  let tail (shift : Nat) : UInt8 := UInt8.ofNat (0x80 + n / Nat.pow 2 shift % 64)
  if n < 0x80 then [UInt8.ofNat n]
  else if n < 0x800 then [UInt8.ofNat (0xC0 + n / 64), tail 0]
  else if n < 0x10000 then [UInt8.ofNat (0xE0 + n / 4096), tail 6, tail 0]
  else [UInt8.ofNat (0xF0 + n / 262144), tail 12, tail 6, tail 0]

/-- Where the first lone surrogate stands, its number, and how many stand there in a row. -/
structure EncodeFault where
  position : Nat
  code : Nat
  run : Nat
deriving DecidableEq

/-- The bytes of a text that has no lone surrogates. -/
def encode (t : Text) : Except EncodeFault (List UInt8) :=
  match t.dropWhile (!·.isSurrogate) with
  | [] => .ok (t.flatMap encodePoint)
  | c :: rest =>
    .error ⟨t.length - (rest.length + 1), c.toNat,
      1 + (rest.takeWhile CodePoint.isSurrogate).length⟩

inductive Reason where
  | startByte
  | continuationByte
  | endOfData
deriving DecidableEq

/-- The bytes at fault, `stop` not included; `first` is the first of them. -/
structure DecodeFault where
  first : UInt8
  start : Nat
  stop : Nat
  reason : Reason
deriving DecidableEq

/-- A byte after the first in a sequence. -/
def isTail (b : UInt8) : Bool := 0x80 ≤ b && b ≤ 0xBF

/-- How many bytes follow a first byte, and the bounds of the second byte. -/
def shape? (b : UInt8) : Option (Nat × UInt8 × UInt8) :=
  if 0xC2 ≤ b && b ≤ 0xDF then some (1, 0x80, 0xBF)
  else if b = 0xE0 then some (2, 0xA0, 0xBF)
  else if b = 0xED then some (2, 0x80, 0x9F)
  else if 0xE1 ≤ b && b ≤ 0xEF then some (2, 0x80, 0xBF)
  else if b = 0xF0 then some (3, 0x90, 0xBF)
  else if 0xF1 ≤ b && b ≤ 0xF3 then some (3, 0x80, 0xBF)
  else if b = 0xF4 then some (3, 0x80, 0x8F)
  else none

/-- The number of well-formed bytes after a first byte with the given shape. -/
def goodTail (shape : Nat × UInt8 × UInt8) : List UInt8 → Nat
  | [] => 0
  | b :: bs =>
    if shape.2.1 ≤ b && b ≤ shape.2.2 then 1 + ((bs.take (shape.1 - 1)).takeWhile isTail).length
    else 0

/-- The number that a first byte and its tail encode. -/
def pointValue (lead : UInt8) (tail : List UInt8) : Nat :=
  let head := match tail.length with
    | 0 => lead.toNat
    | 1 => lead.toNat % 32
    | 2 => lead.toNat % 16
    | _ => lead.toNat % 8
  tail.foldl (fun n b => n * 64 + b.toNat % 64) head

/-- The first code point of `lead :: rest` and the length of its tail, or how many bytes of the tail
are well formed and why the next is not. -/
def decodePoint (lenient : Bool) (lead : UInt8) (rest : List UInt8) :
    Except (Nat × Reason) (CodePoint × Nat) :=
  if lead < 0x80 then .ok (.char (Char.ofNat lead.toNat), 0)
  else
    match shape? lead with
    | none => .error (0, .startByte)
    | some shape =>
      let shape := if lenient && lead = 0xED then (2, 0x80, 0xBF) else shape
      let good := goodTail shape rest
      if good = shape.1 then
        match CodePoint.ofNat? (pointValue lead (rest.take good)) with
        | some c => .ok (c, good)
        | none => .error (good, .continuationByte)
      else if rest.length ≤ good then .error (good, .endOfData)
      else .error (good, .continuationByte)

/-- Decode the bytes after the first `skip`, the first of all being at `position`. -/
def decodeFrom (lenient : Bool) : Nat → Nat → List UInt8 → Except DecodeFault Text
  | _, _, [] => .ok []
  | position, skip + 1, _ :: bs => decodeFrom lenient (position + 1) skip bs
  | position, 0, b :: bs =>
    match decodePoint lenient b bs with
    | .ok (c, n) => (decodeFrom lenient (position + 1) n bs).map (c :: ·)
    | .error (good, reason) => .error ⟨b, position, position + good + 1, reason⟩

/-- The text of well-formed bytes. -/
def decode (bs : List UInt8) : Except DecodeFault Text := decodeFrom false 0 0 bs

def Reason.message : Reason → String
  | .startByte => "invalid start byte"
  | .continuationByte => "invalid continuation byte"
  | .endOfData => "unexpected end of data"

def DecodeFault.message (f : DecodeFault) : Text :=
  let place :=
    if f.stop = f.start + 1 then
      Text.ofString "byte 0x" ++ Numeral.hex 2 f.first.toNat ++ Text.ofString " in position " ++
        Numeral.ofNat f.start
    else
      Text.ofString "bytes in position " ++ Numeral.ofNat f.start ++ [.char '-'] ++
        Numeral.ofNat (f.stop - 1)
  Text.ofString "'utf-8' codec can't decode " ++ place ++ Text.ofString ": " ++
    Text.ofString f.reason.message

def EncodeFault.message (f : EncodeFault) : Text :=
  let place :=
    if f.run = 1 then
      Text.ofString "character '\\u" ++ Numeral.hex 4 f.code ++ Text.ofString "' in position " ++
        Numeral.ofNat f.position
    else
      Text.ofString "characters in position " ++ Numeral.ofNat f.position ++ [.char '-'] ++
        Numeral.ofNat (f.position + f.run - 1)
  Text.ofString "'utf-8' codec can't encode " ++ place ++
    Text.ofString ": surrogates not allowed"

end PromptTemplate.Utf8
