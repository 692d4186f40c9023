import Agenda.Calendar.DayNumber
import Agenda.Number.Binary64
/-!
# Moments

A point in time as a clock shows it: a calendar day, a time of day in microseconds, and how many
minutes the clock is ahead of UTC.

* `Moment` — the clock reading.
* `Moment.sinceEpoch` — microseconds from 1 January 1970, 00:00 UTC.
* `Moment.ofEpoch?` — the UTC clock reading at such a number of microseconds.
* `Moment.inUtc?` — the same moment on a UTC clock.
* `Moment.timestamp` — seconds from 1 January 1970, 00:00 UTC, with 53 significant bits.
-/

namespace Agenda

def microsPerSecond : Nat := 1000000

def microsPerDay : Nat := 86400 * microsPerSecond

/-- The day number of 1 January 1970. -/
def epochDayNumber : Nat := 719163

structure Moment where
  day : Date
  /-- Microseconds since midnight on the clock. -/
  micros : Nat
  /-- Minutes that the clock is ahead of UTC. -/
  offset : Int
  isTime : micros < microsPerDay
deriving DecidableEq

namespace Moment

def midnight (day : Date) : Moment :=
  ⟨day, 0, 0, by decide⟩

/-- Microseconds on the clock face since 1 January 1970, 00:00, whatever the offset of the clock. -/
def faceMicros (m : Moment) : Int :=
  ((m.day.dayNumber : Int) - epochDayNumber) * microsPerDay + m.micros

/-- Microseconds since 1 January 1970, 00:00 UTC. -/
def sinceEpoch (m : Moment) : Int :=
  m.faceMicros - m.offset * 60 * microsPerSecond

/-- The reading of a UTC clock at a number of microseconds since 1 January 1970, if the calendar has
that day. -/
def ofEpoch? (t : Int) : Option Moment :=
  let days := t.fdiv microsPerDay
  let number := days + epochDayNumber
  if number < 1 then none
  else
    (Date.ofDayNumber? number.toNat).map fun day =>
      ⟨day, (t - days * microsPerDay).toNat % microsPerDay, 0,
        Nat.mod_lt _ (by decide)⟩

def inUtc? (m : Moment) : Option Moment :=
  ofEpoch? m.sinceEpoch

/-- Seconds since 1 January 1970, 00:00 UTC, as the nearest number with 53 significant bits. Until
the year 2242 these numbers tell microseconds apart. -/
def timestamp (m : Moment) : Rat :=
  Binary64.nearest (m.sinceEpoch / microsPerSecond)

/-- Whole seconds since 1 January 1970, 00:00 UTC, rounded down. -/
def seconds (m : Moment) : Int :=
  m.sinceEpoch.fdiv microsPerSecond

end Moment
end Agenda
