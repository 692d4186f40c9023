import Agenda.Calendar.Date
import Agenda.Text.Blank
/-!
# Compact date texts

The form `YYYYMMDD` in which tasks keep their dates and requests give them.

* `DateTextError` — why a text is no compact date.
* `Compact.read` — the date that eight digits denote.
* `Compact.parse` — the same for a text with blanks around it; the error names the trimmed text.
* `Compact.write` — the compact text of a date. The year is written without leading zeros, so that a
  date of a year below 1000 is not read back.

Reading takes four digits as the year and then tries the month as `10` to `12`, as `01` to `09` and as
a single digit other than zero. The first of these choices after which a day can be read stands, with
the day read as `30` or `31`, as `10` to `29`, as `01` to `09` or as a single digit. Digits may be left
over by such a reading; they are then reported as an error of their own.
-/

namespace Agenda

/-- Why the digits of a text do not make a date. -/
inductive DateTextFault
  | notEightDigits
  /-- No month and day can be read after the year. -/
  | noReading
  /-- These digits are left over after the day. -/
  | leftover (digits : List Char)
  | yearZero
  | noSuchDay
deriving DecidableEq

/-- A text that is no compact date, with the reason. -/
structure DateTextError where
  text : List Char
  fault : DateTextFault
deriving DecidableEq

namespace Compact

def digits? (cs : List Char) : Option (List Nat) :=
  cs.mapM Text.asciiDigit?

/-- A two-digit number between two bounds at the front of a digit list, with the digits after it. -/
def twoDigits (lowest highest : Nat) : List Nat → Option (Nat × List Nat)
  | a :: b :: rest =>
      if lowest ≤ 10 * a + b ∧ 10 * a + b ≤ highest then some (10 * a + b, rest) else none
  | _ => none

/-- A single digit other than zero at the front of a digit list, with the digits after it. -/
def oneDigit : List Nat → Option (Nat × List Nat)
  | a :: rest => if 1 ≤ a then some (a, rest) else none
  | [] => none

/-- The readings of a month, in the order in which they are tried. -/
def monthReadings (ds : List Nat) : List (Nat × List Nat) :=
  [twoDigits 10 12 ds, twoDigits 1 9 ds, oneDigit ds].filterMap id

def dayReadings (ds : List Nat) : List (Nat × List Nat) :=
  [twoDigits 30 31 ds, twoDigits 10 29 ds, twoDigits 1 9 ds, oneDigit ds].filterMap id

/-- The month and the day read from the digits after the year, with the digits left over. -/
def monthAndDay? (ds : List Nat) : Option (Nat × Nat × List Nat) :=
  (monthReadings ds).findSome? fun (month, rest) =>
    (dayReadings rest).head?.map fun (day, left) => (month, day, left)

def read (cs : List Char) : Except DateTextFault Date :=
  match digits? cs with
  | some [a, b, c, d, e, f, g, h] =>
      let year := Text.ofDigits [a, b, c, d]
      match monthAndDay? [e, f, g, h] with
      | none => .error .noReading
      | some (month, day, left) =>
          if left ≠ [] then .error (.leftover (cs.drop (cs.length - left.length)))
          else if year = 0 then .error .yearZero
          else
            match Date.ofParts? year month day with
            | some date => .ok date
            | none => .error .noSuchDay
  | _ => .error .notEightDigits

/-- The date that a text denotes, blanks around it aside. -/
def parse (text : String) : Except DateTextError Date :=
  let cs := Text.trim text.toList
  (read cs).mapError fun fault => ⟨cs, fault⟩

/-- The compact text of a date: the year as it is, the month and the day in two digits. -/
def writeChars (d : Date) : List Char :=
  Text.decimal d.year ++ (Text.padded 2 d.month ++ Text.padded 2 d.day)

def write (d : Date) : String :=
  String.ofList (writeChars d)

end Compact

namespace DateTextError

def reason (e : DateTextError) : String :=
  match e.fault with
  | .notEightDigits => "expected YYYYMMDD"
  | .noReading =>
      "time data '" ++ String.ofList e.text ++ "' does not match format '%Y%m%d'"
  | .leftover digits => "unconverted data remains: " ++ String.ofList digits
  | .yearZero => "year 0 is out of range"
  | .noSuchDay => "day is out of range for month"

def message (e : DateTextError) : String :=
  "error parsing the date '" ++ String.ofList e.text ++ "': " ++ e.reason

end DateTextError

end Agenda
