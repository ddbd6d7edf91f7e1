import PromptTemplate.Json.Reader
import PromptTemplate.Text.Wide

/-!
# JSON in bytes

A JSON text begins with a character of ASCII, so the zeros among its first bytes tell which of the
Unicode encodings it is in. A byte order mark tells it too and is not part of the text.
-/

namespace PromptTemplate.Json

inductive Encoding where
  | utf8
  | utf16 (o : ByteOrder)
  | utf32 (o : ByteOrder)
deriving DecidableEq

namespace Encoding

/-- The encoding told by a byte order mark, and the bytes after the mark. -/
def marked? : List UInt8 → Option (Encoding × List UInt8)
  | 0x00 :: 0x00 :: 0xFE :: 0xFF :: bs => some (utf32 .bigEndian, bs)
  | 0xFF :: 0xFE :: 0x00 :: 0x00 :: bs => some (utf32 .littleEndian, bs)
  | 0xFE :: 0xFF :: bs => some (utf16 .bigEndian, bs)
  | 0xFF :: 0xFE :: bs => some (utf16 .littleEndian, bs)
  | 0xEF :: 0xBB :: 0xBF :: bs => some (utf8, bs)
  | _ => none

/-- The encoding told by the places of the zeros. -/
def ofZeros : List UInt8 → Encoding
  | [a, b] =>
    if a = 0 then utf16 .bigEndian else if b = 0 then utf16 .littleEndian else utf8
  | a :: b :: c :: d :: _ =>
    if a = 0 then if b = 0 then utf32 .bigEndian else utf16 .bigEndian
    else if b = 0 then if c = 0 && d = 0 then utf32 .littleEndian else utf16 .littleEndian
    else utf8
  | _ => utf8

/-- The encoding of a JSON text, and its bytes without a byte order mark. -/
def detect (bs : List UInt8) : Encoding × List UInt8 := (marked? bs).getD (ofZeros bs, bs)

/-- The text of bytes, lone surrogates included. -/
def decode? : Encoding → List UInt8 → Option Text
  | utf8, bs => (Utf8.decodeFrom true 0 0 bs).toOption
  | utf16 o, bs => Utf16.decode? o bs
  | utf32 o, bs => Utf32.decode? o bs

end Encoding

/-- The value of a JSON text in bytes. -/
def readBytes (bs : List UInt8) : Except Fault Data :=
  let (encoding, bs) := Encoding.detect bs
  match encoding.decode? bs with
  | some t => read t
  | none => .error .malformed

end PromptTemplate.Json
