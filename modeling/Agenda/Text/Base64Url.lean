import Agenda.Text.Utf8
/-!
# Base64url

Bytes as texts over the alphabet of URLs, six bits to a character.

* `Base64Url.encode` — the text of a byte sequence, without padding.
* `Base64Url.decode` — the bytes of a text. The text must be the encoding of these bytes, or that
  encoding filled up with `=` to a multiple of four characters; no other spelling is read.

This is the form in which PyJWT writes the segments of a token, and the only one in which it reads them.
-/

namespace Agenda
namespace Base64Url

/-- The characters of the alphabet in the order of their values. -/
def alphabet : List Char :=
  "ABCDEFGHIJKLMNOPQRSTUVWXYZabcdefghijklmnopqrstuvwxyz0123456789-_".toList

def letter (n : Nat) : Char :=
  alphabet.getD n '-'

def value? (c : Char) : Option Nat :=
  alphabet.findIdx? (· == c)

def encode : Bytes → List Char
  | a :: b :: c :: rest =>
      let n := (a.toNat * 256 + b.toNat) * 256 + c.toNat
      letter (n / 262144) :: letter (n / 4096 % 64) :: letter (n / 64 % 64) :: letter (n % 64)
        :: encode rest
  | [a, b] =>
      let n := (a.toNat * 256 + b.toNat) * 4
      [letter (n / 4096), letter (n / 64 % 64), letter (n % 64)]
  | [a] =>
      let n := a.toNat * 16
      [letter (n / 64), letter (n % 64)]
  | [] => []

/-- The bytes of a list of values. Bits that do not fill a byte must be zero. -/
def ofValues : List Nat → Option Bytes
  | a :: b :: c :: d :: rest =>
      let n := ((a * 64 + b) * 64 + c) * 64 + d
      (ofValues rest).map fun bytes =>
        UInt8.ofNat (n / 65536) :: UInt8.ofNat (n / 256) :: UInt8.ofNat n :: bytes
  | [a, b, c] =>
      let n := (a * 64 + b) * 64 + c
      if n % 4 = 0 then some [UInt8.ofNat (n / 1024), UInt8.ofNat (n / 4)] else none
  | [a, b] =>
      let n := a * 64 + b
      if n % 16 = 0 then some [UInt8.ofNat (n / 16)] else none
  | [_] => none
  | [] => some []

/-- A text without the padding that fills it up to a multiple of four characters. Padding of any other
length stays, and is no part of the alphabet. -/
def withoutPadding (cs : List Char) : List Char :=
  let bare := cs.takeWhile (· != '=')
  if cs = bare ++ List.replicate ((4 - bare.length % 4) % 4) '=' then bare else cs

def decode (cs : List Char) : Option Bytes := do
  let values ← (withoutPadding cs).mapM value?
  ofValues values

end Base64Url
end Agenda
