import Agenda.Text.Digit
/-!
# Calendar dates

Dates of the proleptic Gregorian calendar from 1 January of year 1 to 31 December of year 9999.

* `isLeapYear`, `monthLength` — the shape of a year.
* `Date` — a date; its fields are in range by construction.
* `Date.ofParts?` — the date with given parts, if the calendar has it.
* `Date.ofFields` — the same from arbitrary integers, naming the first part that is wrong.
* `CalendarError` — the ways in which date arithmetic leaves the calendar.
-/

namespace Agenda

/-- Every fourth year is a leap year, except the centuries that four hundred does not divide. -/
def isLeapYear (year : Nat) : Bool :=
  year % 4 == 0 && (year % 100 != 0 || year % 400 == 0)

/-- The number of days of a month, counted from one. -/
def monthLength (year month : Nat) : Nat :=
  match month with
  | 2 => if isLeapYear year then 29 else 28
  | 4 | 6 | 9 | 11 => 30
  | _ => 31

def firstYear : Nat := 1

def lastYear : Nat := 9999

/-- Whether the calendar has a date with these parts. -/
def IsDate (year month day : Nat) : Prop :=
  (firstYear ≤ year ∧ year ≤ lastYear) ∧ (1 ≤ month ∧ month ≤ 12)
    ∧ (1 ≤ day ∧ day ≤ monthLength year month)

instance (year month day : Nat) : Decidable (IsDate year month day) :=
  inferInstanceAs (Decidable (_ ∧ _))

structure Date where
  year : Nat
  month : Nat
  day : Nat
  isDate : IsDate year month day
deriving DecidableEq

instance : Inhabited Date := ⟨⟨1, 1, 1, by decide⟩⟩

/-- The ways in which date arithmetic leaves the calendar. -/
inductive CalendarError
  /-- A part of a date does not fit in a signed 32-bit field. -/
  | partTooLarge
  | noSuchYear (year : Int)
  | noSuchMonth
  | noSuchDay
  /-- Counting days leads out of the calendar. -/
  | beyondLastDay
  /-- Counting years leads out of the calendar. -/
  | beyondLastYear (year : Int)
  /-- Years were added into a year with more digits than an integer text may have. -/
  | yearTooLong
deriving DecidableEq

namespace Date

@[ext] theorem ext {a b : Date} (hyear : a.year = b.year) (hmonth : a.month = b.month)
    (hday : a.day = b.day) : a = b := by
  cases a
  cases b
  simp_all

/-- The date with the given parts, if the calendar has it. -/
def ofParts? (year month day : Nat) : Option Date :=
  if h : IsDate year month day then some ⟨year, month, day, h⟩ else none

theorem ofParts?_eq_some_iff {year month day : Nat} {d : Date} :
    ofParts? year month day = some d ↔ d.year = year ∧ d.month = month ∧ d.day = day := by
  unfold ofParts?
  constructor
  · intro h
    split at h
    · obtain rfl := Option.some.inj h
      exact ⟨rfl, rfl, rfl⟩
    · exact absurd h (by simp)
  · rintro ⟨rfl, rfl, rfl⟩
    simp [d.isDate]

theorem ofParts?_eq_none_iff {year month day : Nat} :
    ofParts? year month day = none ↔ ¬ IsDate year month day := by
  unfold ofParts?
  split <;> simp_all

/-- A date is rebuilt from its own parts. -/
theorem ofParts?_parts (d : Date) : ofParts? d.year d.month d.day = some d :=
  ofParts?_eq_some_iff.2 ⟨rfl, rfl, rfl⟩

/-- Whether an integer fits in a signed 32-bit field. -/
def fitsField (n : Int) : Bool :=
  -2147483648 ≤ n && n ≤ 2147483647

/-- The date with the given parts. Parts that do not fit in their field are refused first; then the
year, the month and the day are checked in this order. -/
def ofFields (year month day : Int) : Except CalendarError Date :=
  if ¬ (fitsField year ∧ fitsField month ∧ fitsField day) then .error .partTooLarge
  else if year < 1 ∨ 9999 < year then .error (.noSuchYear year)
  else if month < 1 ∨ 12 < month then .error .noSuchMonth
  else if day < 1 then .error .noSuchDay
  else
    match ofParts? year.toNat month.toNat day.toNat with
    | some d => .ok d
    | none => .error .noSuchDay

/-- The form `YYYY-MM-DD` in which messages name a date. -/
def hyphenated (d : Date) : String :=
  String.ofList (Text.padded 4 d.year ++ '-' :: (Text.padded 2 d.month ++ '-' :: Text.padded 2 d.day))

end Date

namespace CalendarError

def message : CalendarError → String
  | partTooLarge => "date field out of range"
  | noSuchYear year => "year " ++ String.ofList (Text.signedDecimal year) ++ " is out of range"
  | noSuchMonth => "month must be in 1..12"
  | noSuchDay => "day is out of range for month"
  | beyondLastDay => "date value out of range"
  | beyondLastYear year => "year " ++ String.ofList (Text.signedDecimal year) ++ " is out of range"
  | yearTooLong => "year is out of range"

end CalendarError

end Agenda
