import Agenda.Calendar.Date
/-!
# Day numbers

Dates counted as days from 1 January of year 1, which is day 1. Dates are ordered by their day
numbers, and moving by days is addition on them.

* `Date.dayNumber` — the number of a date.
* `Date.ofDayNumber?` — the date with a given number, if the calendar has it.
* `Date.addDays` — the date some days later (or earlier).
* `Date.weekday` — the day of the week, from 1 for Monday to 7 for Sunday.
-/

namespace Agenda

/-- The days of all years before the given one. -/
def daysBeforeYear (year : Nat) : Nat :=
  let past := year - 1
  past * 365 + past / 4 - past / 100 + past / 400

/-- The days of all months of a year before the given one. -/
def daysBeforeMonth (year month : Nat) : Nat :=
  (List.range (month - 1)).foldl (fun days i => days + monthLength year (i + 1)) 0

/-- The number of the last day of the calendar. -/
def lastDayNumber : Nat := 3652059

/-- The year in which a day number lies. A year is on average `146097 / 400` days long, which tells the
year up to one; the two bounds correct it. -/
def yearOfDayNumber (n : Nat) : Nat :=
  let guess := (n - 1) * 400 / 146097 + 1
  if n ≤ daysBeforeYear guess then guess - 1
  else if daysBeforeYear (guess + 1) < n then guess + 1
  else guess

/-- Walk from the given month on until the remaining days fit in the month; at most `steps` months are
passed. -/
def walkMonths (year : Nat) : (steps month day : Nat) → Nat × Nat
  | 0, month, day => (month, day)
  | steps + 1, month, day =>
      if day ≤ monthLength year month then (month, day)
      else walkMonths year steps (month + 1) (day - monthLength year month)

namespace Date

/-- The number of a date, counted from 1 January of year 1, which has number 1. -/
def dayNumber (d : Date) : Nat :=
  daysBeforeYear d.year + daysBeforeMonth d.year d.month + d.day

instance : LT Date := ⟨fun a b => a.dayNumber < b.dayNumber⟩

instance : LE Date := ⟨fun a b => a.dayNumber ≤ b.dayNumber⟩

instance (a b : Date) : Decidable (a < b) :=
  inferInstanceAs (Decidable (a.dayNumber < b.dayNumber))

instance (a b : Date) : Decidable (a ≤ b) :=
  inferInstanceAs (Decidable (a.dayNumber ≤ b.dayNumber))

theorem lt_iff {a b : Date} : a < b ↔ a.dayNumber < b.dayNumber := Iff.rfl

theorem le_iff {a b : Date} : a ≤ b ↔ a.dayNumber ≤ b.dayNumber := Iff.rfl

/-- The date with a given number. -/
def ofDayNumber? (n : Nat) : Option Date :=
  if 1 ≤ n ∧ n ≤ lastDayNumber then
    let year := yearOfDayNumber n
    let (month, day) := walkMonths year 11 1 (n - daysBeforeYear year)
    ofParts? year month day
  else none

/-- The date a number of days later, or earlier when the number is negative. -/
def addDays (d : Date) (days : Int) : Except CalendarError Date :=
  let n := (d.dayNumber : Int) + days
  if n < 1 then .error .beyondLastDay
  else
    match ofDayNumber? n.toNat with
    | some e => .ok e
    | none => .error .beyondLastDay

/-- The day of the week, from 1 for Monday to 7 for Sunday; 1 January of year 1 is a Monday. -/
def weekday (d : Date) : Nat :=
  (d.dayNumber + 6) % 7 + 1

/-- The later of two dates; the first one when they are equal. -/
def later (a b : Date) : Date :=
  if a < b then b else a

end Date

end Agenda
