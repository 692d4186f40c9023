import Agenda.Text.Utf8
/-!
# Texts in wide units

Characters written as units of two or four bytes, in either order of the bytes, and the pairs of halves
in which 16-bit units hold the characters beyond the first plane.

* `ByteOrder` — which byte of a unit comes first.
* `ofUnits` — the code points of units, in which two halves of a surrogate pair make one character.
* `decodeUtf16`, `decodeUtf32` — the code points of a byte sequence.
-/

namespace Agenda

inductive ByteOrder
  | mostFirst
  | leastFirst
deriving DecidableEq

namespace ByteOrder

/-- The number of two parts of a unit, each below the given base. -/
def join (order : ByteOrder) (base first second : Nat) : Nat :=
  match order with
  | mostFirst => first * base + second
  | leastFirst => second * base + first

end ByteOrder

namespace Text

/-- The code points of 16-bit units, in which two halves of a surrogate pair make one character. A half
without its other half stays alone. -/
def ofUnits : List Nat → List CodePoint
  | [] => []
  | [n] => [CodePoint.ofNumber n]
  | n :: m :: rest =>
      if isHighSurrogate n && isLowSurrogate m then .char (joinHalves n m) :: ofUnits rest
      else CodePoint.ofNumber n :: ofUnits (m :: rest)

def units16 (order : ByteOrder) : Bytes → Option (List Nat)
  | [] => some []
  | [_] => none
  | a :: b :: rest => (units16 order rest).map (order.join 0x100 a.toNat b.toNat :: ·)

def units32 (order : ByteOrder) : Bytes → Option (List Nat)
  | [] => some []
  | a :: b :: c :: d :: rest =>
      (units32 order rest).map
        (order.join 0x10000 (order.join 0x100 a.toNat b.toNat) (order.join 0x100 c.toNat d.toNat) :: ·)
  | _ => none

def decodeUtf16 (order : ByteOrder) (bytes : Bytes) : Option (List CodePoint) :=
  (units16 order bytes).map ofUnits

/-- The code points that a byte sequence encodes in 32-bit units, one for each. -/
def decodeUtf32 (order : ByteOrder) (bytes : Bytes) : Option (List CodePoint) :=
  (units32 order bytes).bind fun units => units.mapM (CodePoint.ofNumber? 0 0x10FFFF)

end Text
end Agenda
