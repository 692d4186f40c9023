import Agenda.Text.Blank
import Agenda.Text.Digit
/-!
# Integer texts

The texts that denote an integer in a setting, an id or a token claim: blanks around it, an optional
sign, decimal digits of any script, and single underscores between digits.

* `readInteger` — the integer that a text denotes, if it denotes one.
* `digitRun` — digits with single underscores between them.
* `maxIntegerDigits` — a longer digit run is refused, leading zeros included.
-/

namespace Agenda
namespace Text

/-- The largest number of digits that an integer text may have. -/
def maxIntegerDigits : Nat := 4300

/-- The blanks that may stand around an integer: all of them but the four information separators. -/
def isIntegerBlank (c : Char) : Bool :=
  isBlank c && !(0x1C ≤ c.toNat && c.toNat ≤ 0x1F)

/-- The values of a non-empty run of digits, in which a single underscore may stand between two
digits. -/
def digitRun : List Char → Option (List Nat)
  | [] => none
  | [c] => (decimalDigit? c).map fun d => [d]
  | c :: d :: rest =>
      match decimalDigit? c with
      | none => none
      | some value =>
          if d = '_' then (digitRun rest).map (value :: ·)
          else (digitRun (d :: rest)).map (value :: ·)

/-- The number of an unsigned integer text without blanks around it. -/
def readMagnitude (cs : List Char) : Option Nat :=
  match digitRun cs with
  | none => none
  | some ds => if ds.length ≤ maxIntegerDigits then some (ofDigits ds) else none

def readInteger (cs : List Char) : Option Int :=
  match dropAround isIntegerBlank cs with
  | '+' :: rest => (readMagnitude rest).map fun n => (n : Int)
  | '-' :: rest => (readMagnitude rest).map fun n => -(n : Int)
  | rest => (readMagnitude rest).map fun n => (n : Int)

end Text
end Agenda
