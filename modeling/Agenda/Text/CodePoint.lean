/-!
# Code points

A text that is read from bytes is a list of code points. Nearly all of them are characters. Halves of
surrogate pairs are code points as well, and a byte sequence may hold one without its other half; it is
no character, and no text that holds one can be written again.

* `CodePoint` — a character or a lone half.
* `CodePoint.ofNumber?` — the code point with a number.
* `isHighSurrogate`, `isLowSurrogate`, `joinHalves` — the halves of a pair and the character they make.
* `CodePoint.chars?` — the characters of code points among which there is no lone half.
-/

namespace Agenda

/-- An element of a text that is read from bytes. -/
inductive CodePoint
  | char (c : Char)
  /-- Half of a surrogate pair without its other half. -/
  | loneHalf (number : Nat)
deriving DecidableEq

namespace Text

def isHighSurrogate (n : Nat) : Bool := 0xD800 ≤ n && n ≤ 0xDBFF

def isLowSurrogate (n : Nat) : Bool := 0xDC00 ≤ n && n ≤ 0xDFFF

/-- The character that the two halves of a surrogate pair make. -/
def joinHalves (high low : Nat) : Char :=
  Char.ofNat (0x10000 + (high - 0xD800) * 0x400 + (low - 0xDC00))

end Text

namespace CodePoint

def ofNumber (n : Nat) : CodePoint :=
  if Text.isHighSurrogate n || Text.isLowSurrogate n then loneHalf n else char (Char.ofNat n)

/-- The code point with a number, provided that the number lies in a range. -/
def ofNumber? (lowest highest n : Nat) : Option CodePoint :=
  if lowest ≤ n ∧ n ≤ highest then some (ofNumber n) else none

def char? : CodePoint → Option Char
  | char c => some c
  | loneHalf _ => none

/-- The characters of code points, if all of them are characters. -/
def chars? (points : List CodePoint) : Option (List Char) :=
  points.mapM char?

/-- Characters are the characters of their code points. -/
theorem chars?_map_char (cs : List Char) : chars? (cs.map char) = some cs := by
  induction cs with
  | nil => rfl
  | cons c rest ih =>
      simp only [chars?] at ih
      simp [chars?, char?, ih]

end CodePoint
end Agenda
