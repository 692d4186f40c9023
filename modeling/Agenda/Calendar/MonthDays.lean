import Agenda.Calendar.DayNumber
/-!
# Signed days of a month

A rule may name a day of a month from its end: `-1` is the last day, `-2` the day before it.

* `lastDayOfMonth` — the length of a month given by arbitrary integers.
* `sortUnique` — ascending and without repetition.
* `resolveDays` — the day numbers that a list of signed days stands for in a month.
-/

namespace Agenda

/-- Put an integer into an ascending list, unless it is there already. -/
def insertUnique (n : Int) : List Int → List Int
  | [] => [n]
  | m :: rest => if n < m then n :: m :: rest else if n = m then m :: rest else m :: insertUnique n rest

/-- The elements of a list in ascending order, each once. -/
def sortUnique (ns : List Int) : List Int :=
  ns.foldr insertUnique []

def monthEnd (year month : Int) : Except CalendarError Date := do
  let first ← Date.ofFields year month 1
  Date.ofFields year month (monthLength first.year first.month)

def lastDayOfMonth (year month : Int) : Except CalendarError Nat :=
  (monthEnd year month).map Date.day

/-- The day number that a signed day stands for in a month. A negative day is counted back from the
end of the month, so that it may reach into earlier months; any other day stands for itself, also when
the month is too short for it. -/
def resolveDay (year month day : Int) : Except CalendarError Int :=
  if day < 0 then do
    let last ← monthEnd year month
    let resolved ← last.addDays (day + 1)
    pure resolved.day
  else pure day

/-- The day numbers that signed days stand for in a month, ascending and each once. -/
def resolveDays (days : List Int) (year month : Int) : Except CalendarError (List Int) :=
  (days.mapM (resolveDay year month)).map sortUnique

end Agenda
