import Agenda.Calendar.DayNumber
/-!
# Repeat rules

How a task repeats.

* `Rule` — every so many days, every year, on weekdays, or on signed days of months.
* `Rule.WellFormed` — the rules that a rule text can denote: numbers in range, lists ascending.
* `WeekdayListed`, `MonthDayListed` — the dates that a weekly and a monthly rule are about.
-/

namespace Agenda

/-- A repeat rule. Weekdays run from 1 for Monday to 7 for Sunday; a day of a month is counted from its
start when positive and from its end when negative. -/
inductive Rule
  | daily (interval : Int)
  | yearly
  | weekly (weekdays : List Int)
  | monthly (days months : List Int)
deriving DecidableEq

/-- The largest number of days between two dates of a daily rule. -/
def maxInterval : Int := 400

/-- All months of the year. -/
def allMonths : List Int := [1, 2, 3, 4, 5, 6, 7, 8, 9, 10, 11, 12]

/-- Whether a number may be the interval of a daily rule. -/
def IsInterval (n : Int) : Prop := 1 ≤ n ∧ n ≤ maxInterval

/-- Whether a number is a day of the week. -/
def IsWeekday (n : Int) : Prop := 1 ≤ n ∧ n ≤ 7

/-- Whether a number may be a day of a monthly rule: a day of the longest months, or one of the last
two days of the month. -/
def IsMonthDay (n : Int) : Prop := (1 ≤ n ∧ n ≤ 31) ∨ n = -1 ∨ n = -2

/-- Whether a number is a month of the year. -/
def IsMonth (n : Int) : Prop := 1 ≤ n ∧ n ≤ 12

instance (n : Int) : Decidable (IsInterval n) := inferInstanceAs (Decidable (_ ∧ _))
instance (n : Int) : Decidable (IsWeekday n) := inferInstanceAs (Decidable (_ ∧ _))
instance (n : Int) : Decidable (IsMonthDay n) := inferInstanceAs (Decidable (_ ∨ _))
instance (n : Int) : Decidable (IsMonth n) := inferInstanceAs (Decidable (_ ∧ _))

/-- A non-empty ascending list without repetition, all of whose entries satisfy `p`. -/
def AscendingOf (p : Int → Prop) (ns : List Int) : Prop :=
  ns ≠ [] ∧ ns.Pairwise (· < ·) ∧ ∀ n ∈ ns, p n

instance (p : Int → Prop) [DecidablePred p] (ns : List Int) : Decidable (AscendingOf p ns) :=
  inferInstanceAs (Decidable (_ ∧ _))

namespace Rule

/-- The rules that a rule text can denote. -/
def WellFormed : Rule → Prop
  | daily interval => IsInterval interval
  | yearly => True
  | weekly weekdays => AscendingOf IsWeekday weekdays
  | monthly days months => AscendingOf IsMonthDay days ∧ AscendingOf IsMonth months

instance : DecidablePred WellFormed
  | daily interval => inferInstanceAs (Decidable (IsInterval interval))
  | yearly => inferInstanceAs (Decidable True)
  | weekly weekdays => inferInstanceAs (Decidable (AscendingOf IsWeekday weekdays))
  | monthly days months =>
      inferInstanceAs (Decidable (AscendingOf IsMonthDay days ∧ AscendingOf IsMonth months))

end Rule

/-- Whether a date falls on one of the listed weekdays. -/
def WeekdayListed (weekdays : List Int) (d : Date) : Prop :=
  (d.weekday : Int) ∈ weekdays

/-- Whether a date lies in one of the listed months on one of the listed days, the last day of its
month being also `-1` and the day before it `-2`. -/
def MonthDayListed (days months : List Int) (d : Date) : Prop :=
  (d.month : Int) ∈ months
    ∧ ((d.day : Int) ∈ days
      ∨ (-1 ∈ days ∧ d.day = monthLength d.year d.month)
      ∨ (-2 ∈ days ∧ d.day + 1 = monthLength d.year d.month))

instance (weekdays : List Int) (d : Date) : Decidable (WeekdayListed weekdays d) :=
  inferInstanceAs (Decidable (_ ∈ _))

instance (days months : List Int) (d : Date) : Decidable (MonthDayListed days months d) :=
  inferInstanceAs (Decidable (_ ∧ _))

end Agenda
