/-!
# Numbers with 53 significant bits

A number that is written with a fraction or an exponent, and a time in seconds, is taken as the nearest
number of the form `m * 2 ^ e` with `m` below `2 ^ 53`; of two that are equally near, the one with the
even `m`.

* `Binary64.nearest` — the nearest such number.
* `Binary64.nearest?` — the same; nothing when it is too large.
* `Binary64.ofDecimal?` — the same for a number in decimal scientific form.
* `truncate` — a rational number without its fraction.
-/

namespace Agenda

/-- The integer nearest to a rational number; the even one when two are equally near. -/
def roundToEven (q : Rat) : Int :=
  let below := q.floor
  let fraction := q - below
  if fraction < 1 / 2 then below
  else if 1 / 2 < fraction then below + 1
  else if below % 2 = 0 then below
  else below + 1

def truncate (q : Rat) : Int :=
  q.num.tdiv q.den

namespace Binary64

def powerOfTwo (e : Int) : Rat :=
  if 0 ≤ e then ((Nat.pow 2 e.toNat : Nat) : Rat) else 1 / ((Nat.pow 2 (-e).toNat : Nat) : Rat)

/-- The exponent of the largest power of two that is not above a positive number. -/
def exponentOf (q : Rat) : Int :=
  let guess : Int := (q.num.toNat.log2 : Int) - q.den.log2
  if q < powerOfTwo guess then guess - 1 else guess

/-- The distance of neighbouring numbers around a positive number. -/
def spacing (q : Rat) : Rat :=
  powerOfTwo (max (exponentOf q - 52) (-1074))

def nearestPositive (q : Rat) : Rat :=
  roundToEven (q / spacing q) * spacing q

/-- The nearest number with 53 significant bits, however large it is. -/
def nearest (q : Rat) : Rat :=
  if q = 0 then 0 else if 0 < q then nearestPositive q else -nearestPositive (-q)

/-- The nearest number with 53 significant bits; nothing when it is `2 ^ 1024` or more in size. -/
def nearest? (q : Rat) : Option Rat :=
  if -powerOfTwo 1024 < nearest q ∧ nearest q < powerOfTwo 1024 then some (nearest q) else none

/-- The nearest number to `significand * 10 ^ exponent`; nothing when it is too large. Numbers far
outside the range are told by their digits alone. -/
def ofDecimal? (significand exponent : Int) : Option Rat :=
  if significand = 0 then some 0
  else
    -- Beyond these bounds the result is clear, and within them the powers of ten stay small.
    let magnitude : Int := (Nat.toDigits 10 significand.natAbs).length + exponent
    if 400 < magnitude then none
    else if magnitude < -400 then some 0
    else if 0 ≤ exponent then nearest? (significand * ((Nat.pow 10 exponent.toNat : Nat) : Rat))
    else nearest? (significand / ((Nat.pow 10 (-exponent).toNat : Nat) : Rat))

end Binary64
end Agenda
