/-!
# Decimal digits

Digits of the ASCII range and of every script that has a decimal digit sequence, and the numbers that
digit lists denote and are written as.

* `asciiDigit?` / `isAsciiDigit` — the digits `0` to `9`.
* `decimalDigit?` — a digit of any script (general category Nd), with its value.
* `ofDigits` — the number that a list of digit values denotes, most significant first.
* `decimal` — the shortest ASCII digits of a number; `padded` fills up with zeros on the left.
-/

namespace Agenda
namespace Text

def asciiDigit? (c : Char) : Option Nat :=
  if '0'.toNat ≤ c.toNat ∧ c.toNat ≤ '9'.toNat then some (c.toNat - '0'.toNat) else none

def isAsciiDigit (c : Char) : Bool :=
  (asciiDigit? c).isSome

/-- The code points of the digits zero; in each script the other nine digits follow directly. -/
def digitZeros : List Nat :=
  [0x0030, 0x0660, 0x06F0, 0x07C0, 0x0966, 0x09E6, 0x0A66, 0x0AE6, 0x0B66, 0x0BE6, 0x0C66, 0x0CE6,
   0x0D66, 0x0DE6, 0x0E50, 0x0ED0, 0x0F20, 0x1040, 0x1090, 0x17E0, 0x1810, 0x1946, 0x19D0,
   0x1A80, 0x1A90, 0x1B50, 0x1BB0, 0x1C40, 0x1C50, 0xA620, 0xA8D0, 0xA900, 0xA9D0, 0xA9F0,
   0xAA50, 0xABF0, 0xFF10, 0x104A0, 0x10D30, 0x11066, 0x110F0, 0x11136, 0x111D0, 0x112F0,
   0x11450, 0x114D0, 0x11650, 0x116C0, 0x11730, 0x118E0, 0x11950, 0x11C50, 0x11D50, 0x11DA0,
   0x16A60, 0x16AC0, 0x16B50, 0x1D7CE, 0x1D7D8, 0x1D7E2, 0x1D7EC, 0x1D7F6, 0x1E140, 0x1E2F0,
   0x1E950, 0x1FBF0]

/-- The value of a decimal digit of any script. -/
def decimalDigit? (c : Char) : Option Nat :=
  digitZeros.findSome? fun first =>
    if first ≤ c.toNat ∧ c.toNat ≤ first + 9 then some (c.toNat - first) else none

/-- The number that digit values denote in base ten, most significant first. -/
def ofDigits (ds : List Nat) : Nat :=
  ds.foldl (fun n d => 10 * n + d) 0

/-- The ASCII digits of a number, without leading zeros; zero is written `0`. -/
def decimal (n : Nat) : List Char :=
  Nat.toDigits 10 n

/-- The ASCII digits of a number, filled up with zeros on the left to the given width. A number that
needs more digits keeps them all. -/
def padded (width n : Nat) : List Char :=
  List.leftpad width '0' (decimal n)

def signedDecimal (n : Int) : List Char :=
  if n < 0 then '-' :: decimal n.natAbs else decimal n.natAbs

end Text
end Agenda
