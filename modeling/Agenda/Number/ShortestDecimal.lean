import Agenda.Number.Binary64
/-!
# Shortest decimals

The decimal with the fewest digits that is read as a given number with 53 significant bits. Of several
with equally few digits it is the nearest one.

* `Binary64.shortestDecimal` — its digits as one integer, with the power of ten of the last digit.

With `count` digits, the candidates are the two neighbours of the number on the grid of these decimals:
if any decimal of the grid is read as the number, so is one of them.
-/

namespace Agenda
namespace Binary64

def powerOfTen (e : Int) : Rat :=
  if 0 ≤ e then ((Nat.pow 10 e.toNat : Nat) : Rat) else 1 / ((Nat.pow 10 (-e).toNat : Nat) : Rat)

/-- The exponent of the largest power of ten that is not above a positive number. -/
def decimalExponent (q : Rat) : Int :=
  let guess : Int :=
    ((Nat.toDigits 10 q.num.natAbs).length : Int) - (Nat.toDigits 10 q.den).length
  if q < powerOfTen guess then guess - 1 else guess

/-- The nearest decimal with at most a number of digits that is read as a positive number, as a multiple
of a power of ten. -/
def decimalOf? (q : Rat) (count : Nat) : Option (Nat × Int) :=
  let last := decimalExponent q + 1 - count
  let step := powerOfTen last
  let below := (q / step).floor.toNat
  let missing := q - below * step
  let excess := step - missing
  let readsBack (m : Nat) : Bool := nearest (m * step) == q
  match readsBack below, readsBack (below + 1) with
  | false, false => none
  | true, false => some (below, last)
  | false, true => some (below + 1, last)
  | true, true =>
      if missing < excess ∨ (missing = excess ∧ below % 2 = 0) then some (below, last)
      else some (below + 1, last)

/-- The most digits that are needed to tell two numbers apart. -/
def maxDecimalDigits : Nat := 17

def withoutZeros : (steps : Nat) → Nat × Int → Nat × Int
  | 0, d => d
  | steps + 1, (m, last) => if m % 10 = 0 then withoutZeros steps (m / 10, last + 1) else (m, last)

/-- The shortest decimal that is read as a positive number: its digits as one integer, and the power of
ten of the last of them. -/
def shortestDecimal (q : Rat) : Nat × Int :=
  match (List.range maxDecimalDigits).findSome? fun count => decimalOf? q (count + 1) with
  | some d => withoutZeros maxDecimalDigits d
  | none => (0, 0)

end Binary64
end Agenda
