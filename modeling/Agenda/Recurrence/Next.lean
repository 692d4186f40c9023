import Agenda.Calendar.MonthDays
import Agenda.Calendar.Years
import Agenda.Recurrence.Rule
/-!
# The next date of a rule

Given a reference day `now` and the present date `start` of a task, the date on which the task is due
next. The rule is taken as it is: its lists need not be ascending, nor its numbers in range.

* `Date.firstAfter` — the stepping of a daily rule, on day numbers.
* `nextDaily`, `nextYearly` — step from `start` until the date is after `now`, at least once.
* `nextWeekly`, `nextMonthly` — the first listed date after the later of `now` and `start`.
* `Rule.next` — the next date of any rule.
* `NextError` — why there is none.
-/

namespace Agenda

/-- Why a rule has no next date. -/
inductive NextError
  | calendar (cause : CalendarError)
  /-- No listed month has a listed day, in the year of the base date and the year after it. -/
  | noMatchingDay (months : List Int)
  | noWeekday
deriving DecidableEq

/-- The first of `x`, `x + step`, `x + 2 * step`, … that is greater than `bound`. A step that is not
positive leaves `x` as it is. -/
def firstAfter (bound step x : Int) : Int :=
  if 0 < step ∧ x ≤ bound then firstAfter bound step (x + step) else x
termination_by (bound + 1 - x).toNat
decreasing_by omega

/-- Step from `start` by a number of days until the date is after `now`, at least once. A step that
does not lead forward never passes `now` and ends beyond the calendar. -/
def nextDaily (now start : Date) (interval : Int) : Except CalendarError Date := do
  let next ← start.addDays interval
  if now < next then pure next
  else if interval ≤ 0 then .error .beyondLastDay
  else start.addDays (firstAfter now.dayNumber interval next.dayNumber - start.dayNumber)

def nextYearly (now start : Date) : Except CalendarError Date :=
  match _hnext : start.addYears 1 with
  | .error cause => .error cause
  | .ok next => if next ≤ now then nextYearly now next else .ok next
termination_by lastYear - start.year
decreasing_by
  have hyear := Date.year_of_addYears _hnext
  have hlast : next.year ≤ lastYear := next.isDate.1.2
  omega

/-- The number of days from a weekday to the first listed one after it in the same week; if there is
none, to the first weekday of the list in the week after. -/
def daysToListed (current : Int) (weekdays : List Int) : Option Int :=
  match weekdays.find? fun w => current < w with
  | some w => some (w - current)
  | none => weekdays.head?.map fun w => 7 - current + w

/-- The first listed weekday after the later of two dates. -/
def nextWeekly (now start : Date) (weekdays : List Int) : Except NextError Date :=
  let base := Date.later now start
  match daysToListed base.weekday weekdays with
  | none => .error .noWeekday
  | some days => (base.addDays days).mapError .calendar

/-- The days of a month that a monthly rule is about, ascending: its days without those that the month
is too short for. -/
def listedDays (days : List Int) (year month : Int) : Except CalendarError (List Int) := do
  let last ← lastDayOfMonth year month
  let resolved ← resolveDays days year month
  pure (resolved.filter fun day => day ≤ last)

/-- The first date of a year that a monthly rule is about, going through the months in the order of
the list and leaving out the days for which `skip` holds. Months for which `skipMonth` holds are not
looked at. -/
def firstInYear (days : List Int) (year : Int) (skipMonth : Int → Bool) (skip : Int → Int → Bool) :
    (months : List Int) → Except CalendarError (Option Date)
  | [] => .ok none
  | month :: rest =>
      if skipMonth month then firstInYear days year skipMonth skip rest
      else do
        let listed ← listedDays days year month
        match listed.find? fun day => !skip month day with
        | some day => (Date.ofFields year month day).map some
        | none => firstInYear days year skipMonth skip rest

/-- The first listed date after the later of two dates, in its year or the year after. -/
def nextMonthly (now start : Date) (days months : List Int) : Except NextError Date :=
  let base := Date.later now start
  let thisYear := firstInYear days base.year (fun month => month < base.month)
    (fun month day => month == base.month && day ≤ base.day) months
  match thisYear with
  | .error cause => .error (.calendar cause)
  | .ok (some d) => .ok d
  | .ok none =>
      -- In the year after, every listed day is late enough.
      match firstInYear days (base.year + 1) (fun _ => false) (fun _ _ => false) months with
      | .error cause => .error (.calendar cause)
      | .ok (some d) => .ok d
      | .ok none => .error (.noMatchingDay months)

namespace Rule

def next (rule : Rule) (now start : Date) : Except NextError Date :=
  match rule with
  | daily interval => (nextDaily now start interval).mapError .calendar
  | yearly => (nextYearly now start).mapError .calendar
  | weekly weekdays => nextWeekly now start weekdays
  | monthly days months => nextMonthly now start days months

end Rule

end Agenda
