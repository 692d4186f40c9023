import Agenda.Text.Units
/-!
# The encoding of a JSON text

A JSON text is sent as UTF-8, UTF-16 or UTF-32. A byte order mark at its front tells which. Without one,
the places of the zero bytes among the first bytes tell it, since a JSON text begins with characters
of ASCII.

* `TextEncoding` — the encodings.
* `TextEncoding.detect` — the encoding of a byte sequence, with the bytes after its byte order mark.
* `jsonText` — the code points that a byte sequence encodes.
-/

namespace Agenda

inductive TextEncoding
  | utf8
  | utf16 (order : ByteOrder)
  | utf32 (order : ByteOrder)
deriving DecidableEq

namespace TextEncoding

/-- The encoding of a byte sequence without a byte order mark. -/
def unmarked (bytes : Bytes) : TextEncoding :=
  match bytes with
  | [a, b] => if a = 0 then utf16 .mostFirst else if b = 0 then utf16 .leastFirst else utf8
  | a :: b :: c :: d :: _ =>
      if a = 0 then if b = 0 then utf32 .mostFirst else utf16 .mostFirst
      else if b = 0 then if c = 0 ∧ d = 0 then utf32 .leastFirst else utf16 .leastFirst
      else utf8
  | _ => utf8

/-- The encoding of a byte sequence, with the bytes after its byte order mark. -/
def detect (bytes : Bytes) : TextEncoding × Bytes :=
  match bytes with
  | 0x00 :: 0x00 :: 0xFE :: 0xFF :: rest => (utf32 .mostFirst, rest)
  | 0xFF :: 0xFE :: 0x00 :: 0x00 :: rest => (utf32 .leastFirst, rest)
  | 0xFE :: 0xFF :: rest => (utf16 .mostFirst, rest)
  | 0xFF :: 0xFE :: rest => (utf16 .leastFirst, rest)
  | 0xEF :: 0xBB :: 0xBF :: rest => (utf8, rest)
  | _ => (unmarked bytes, bytes)

def decode : TextEncoding → Bytes → Option (List CodePoint)
  | utf8, bytes => Text.decodeUtf8 bytes
  | utf16 order, bytes => Text.decodeUtf16 order bytes
  | utf32 order, bytes => Text.decodeUtf32 order bytes

end TextEncoding

/-- The code points of a JSON text that is given in bytes. -/
def jsonText (bytes : Bytes) : Option (List CodePoint) :=
  let (encoding, rest) := TextEncoding.detect bytes
  encoding.decode rest

end Agenda
