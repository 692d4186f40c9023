import Agenda.Proofs.Calendar.DayNumbers
import Agenda.Recurrence.Next
/-!
# Due dates

On which days a task is due under a rule, said without searching for them.  Days are given by their
numbers, so that a day on which a task would be due after the end of the calendar can be named too.

* `Rule.DueOn` — the days on which a task with a given present date is due.
* `Rule.FirstDue` — the first of them after a reference day.  For a monthly rule it must lie in the year
  of the base date or the year after it, which is as far as a search goes.
* `Rule.LeavesCalendar` — the search ends beyond the last day of the calendar.
* `Rule.Starved` — a monthly rule has no date in the two years that are searched.
* `Rule.firstDue_of_addDays_cases` — a move to the least due day, which may lie beyond the calendar.
* `Rule.FirstDue.unique`, `Rule.FirstDue.not_leavesCalendar`, `Rule.FirstDue.not_starved`,
  `Rule.LeavesCalendar.not_starved` — no two of these hold together.
-/

namespace Agenda

/-- The day of the week of a day number, as `Date.weekday` has it for a date. -/
def weekdayOf (n : Nat) : Nat :=
  (n + 6) % 7 + 1

/-- The month and the day on which a task comes round every year.  29 February gives way to 1 March. -/
def Date.anniversary (d : Date) : Nat × Nat :=
  if d.month = 2 ∧ d.day = 29 then (3, 1) else (d.month, d.day)

/-- The number of the day on which a task comes round in a year. -/
def Date.anniversaryNumber (d : Date) (year : Nat) : Nat :=
  dayNumberOf year d.anniversary.1 d.anniversary.2

namespace Rule

/-- The days on which a task with the present date `start` is due: every so many days after it, in every
later year, or on every listed day after it. -/
def DueOn (rule : Rule) (start : Date) (n : Nat) : Prop :=
  match rule with
  | daily interval => ∃ k : Nat, 1 ≤ k ∧ (n : Int) = start.dayNumber + k * interval
  | yearly => ∃ year, start.year < year ∧ n = start.anniversaryNumber year
  | weekly weekdays => start.dayNumber < n ∧ (weekdayOf n : Int) ∈ weekdays
  | monthly days months => ∃ d : Date, d.dayNumber = n ∧ start < d ∧ MonthDayListed days months d

/-- Whether a year is searched when the base date of a search is given: a monthly rule is followed to the
end of the next year only. -/
def Searches (rule : Rule) (base : Date) (year : Nat) : Prop :=
  match rule with
  | monthly _ _ => year ≤ base.year + 1
  | _ => True

/-- The date is the first one after `now` on which a task is due. -/
structure FirstDue (rule : Rule) (now start d : Date) : Prop where
  due : rule.DueOn start d.dayNumber
  after : now < d
  least : ∀ n, rule.DueOn start n → now.dayNumber < n → d.dayNumber ≤ n
  searched : rule.Searches (Date.later now start) d.year

/-- The first day after `now` on which a task is due lies beyond the calendar.  A monthly rule whose base
date lies in the last year would have to be followed into a year that the calendar does not have. -/
def LeavesCalendar (rule : Rule) (now start : Date) : Prop :=
  match rule with
  | monthly days months => (Date.later now start).year = 9999
      ∧ ∀ d, Date.later now start < d → ¬ MonthDayListed days months d
  | other => ∃ n, IsLeast {m | other.DueOn start m ∧ now.dayNumber < m} n ∧ lastDayNumber < n

/-- The rule is a monthly one without a date in the rest of the year of the base date and in the year
after it, both of which the calendar has. -/
def Starved (rule : Rule) (base : Date) : Prop :=
  match rule with
  | monthly days months => base.year ≤ 9998
      ∧ ∀ d, base < d → (d.year = base.year ∨ d.year = base.year + 1) →
        ¬ MonthDayListed days months d
  | _ => False

end Rule

namespace Date

theorem later_cases (now start : Date) :
    (start ≤ now ∧ later now start = now) ∨ (now < start ∧ later now start = start) := by
  unfold later
  by_cases hlt : now < start
  · exact Or.inr ⟨hlt, if_pos hlt⟩
  · refine Or.inl ⟨?_, if_neg hlt⟩
    rw [lt_iff] at hlt
    rw [le_iff]
    omega

/-- The later of a date and one that is not after it. -/
theorem later_eq_right {now start : Date} (hnow : now ≤ start) : later now start = start := by
  rcases later_cases now start with ⟨hle, heq⟩ | ⟨-, heq⟩
  · rw [le_iff] at hle hnow
    rw [heq]
    exact dayNumber_injective (Nat.le_antisymm hnow hle)
  · exact heq

/-- A day comes after the later of two dates exactly when it comes after both. -/
theorem dayNumber_later_lt_iff {now start : Date} {n : Nat} :
    (later now start).dayNumber < n ↔ now.dayNumber < n ∧ start.dayNumber < n := by
  rcases later_cases now start with ⟨hle, heq⟩ | ⟨hlt, heq⟩
  · rw [heq]
    rw [le_iff] at hle
    omega
  · rw [heq]
    rw [lt_iff] at hlt
    omega

theorem later_lt_iff {now start d : Date} : later now start < d ↔ now < d ∧ start < d :=
  dayNumber_later_lt_iff

/-- A later reference day makes the base date no earlier. -/
theorem year_later_mono {now now' : Date} (start : Date) (hnow : now ≤ now') :
    (later now start).year ≤ (later now' start).year := by
  apply year_le_of_le
  rcases later_cases now start with ⟨hle, heq⟩ | ⟨hlt, heq⟩ <;>
    rcases later_cases now' start with ⟨hle', heq'⟩ | ⟨hlt', heq'⟩ <;>
    rw [heq, heq'] <;> simp only [le_iff, lt_iff] at * <;> omega

end Date

namespace Rule

/-- A due day of a monthly rule after the reference day is a listed date after the base date. -/
theorem dueOn_monthly_iff {days months : List Int} {now start d : Date} :
    ((monthly days months).DueOn start d.dayNumber ∧ now < d)
      ↔ Date.later now start < d ∧ MonthDayListed days months d := by
  rw [Date.later_lt_iff]
  constructor
  · rintro ⟨⟨e, hnumber, hstart, hlisted⟩, hnow⟩
    obtain rfl := Date.dayNumber_injective hnumber
    exact ⟨⟨hnow, hstart⟩, hlisted⟩
  · rintro ⟨⟨hnow, hstart⟩, hlisted⟩
    exact ⟨⟨d, rfl, hstart, hlisted⟩, hnow⟩

/-- A due day of a weekly rule after the reference day is a listed date after the base date. -/
theorem dueOn_weekly_iff {weekdays : List Int} {now start d : Date} :
    ((weekly weekdays).DueOn start d.dayNumber ∧ now < d)
      ↔ Date.later now start < d ∧ WeekdayListed weekdays d := by
  rw [Date.later_lt_iff]
  constructor
  · rintro ⟨⟨hstart, hlisted⟩, hnow⟩
    exact ⟨⟨hnow, hstart⟩, hlisted⟩
  · rintro ⟨⟨hnow, hstart⟩, hlisted⟩
    exact ⟨⟨hstart, hlisted⟩, hnow⟩

/-- A rule that moves to the least due day finds the first due date, or this day lies beyond the
calendar. -/
theorem firstDue_of_addDays_cases {rule : Rule} {now start : Date} {n : Nat} (base : Date) (days : Int)
    (hleast : IsLeast {m | rule.DueOn start m ∧ now.dayNumber < m} n)
    (hsearched : ∀ year, rule.Searches (Date.later now start) year)
    (hdays : (base.dayNumber : Int) + days = n) :
    (∃ d, base.addDays days = .ok d ∧ rule.FirstDue now start d)
      ∨ (base.addDays days = .error .beyondLastDay ∧ lastDayNumber < n) := by
  cases hmove : base.addDays days with
  | ok d =>
      have hsum := Date.addDays_eq_ok_iff.1 hmove
      obtain rfl : d.dayNumber = n := by omega
      exact Or.inl ⟨d, rfl, hleast.1.1, hleast.1.2, fun m hdue hm => hleast.2 ⟨hdue, hm⟩,
        hsearched d.year⟩
  | error cause =>
      obtain rfl := Date.cause_of_addDays hmove
      have hout := Date.addDays_eq_error_iff.1 hmove
      have hafter := hleast.1.2
      exact Or.inr ⟨rfl, by omega⟩

namespace FirstDue

variable {rule : Rule} {now start d : Date}

theorem unique {e : Date} (hd : rule.FirstDue now start d) (he : rule.FirstDue now start e) :
    d = e := by
  have hle := hd.least e.dayNumber he.due he.after
  have hge := he.least d.dayNumber hd.due hd.after
  exact Date.dayNumber_injective (by omega)

/-- A search that finds a date does not leave the calendar. -/
theorem not_leavesCalendar (hd : rule.FirstDue now start d) : ¬ rule.LeavesCalendar now start := by
  -- Outside of monthly rules the least due day is a date, hence within the calendar.
  have hother : ¬ ∃ n, IsLeast {m | rule.DueOn start m ∧ now.dayNumber < m} n
      ∧ lastDayNumber < n := by
    rintro ⟨n, hleast, hbeyond⟩
    have hle : n ≤ d.dayNumber := hleast.2 ⟨hd.due, hd.after⟩
    have hlast := d.dayNumber_le_lastDayNumber
    omega
  cases rule with
  | daily interval => exact hother
  | yearly => exact hother
  | weekly weekdays => exact hother
  | monthly days months =>
      rintro ⟨-, hnone⟩
      have hlisted := dueOn_monthly_iff.1 ⟨hd.due, hd.after⟩
      exact hnone d hlisted.1 hlisted.2

/-- A search that finds a date is not starved. -/
theorem not_starved (hd : rule.FirstDue now start d) : ¬ rule.Starved (Date.later now start) := by
  cases rule with
  | daily interval => exact id
  | yearly => exact id
  | weekly weekdays => exact id
  | monthly days months =>
      rintro ⟨-, hnone⟩
      have hlisted := dueOn_monthly_iff.1 ⟨hd.due, hd.after⟩
      have hlow := Date.year_le_of_lt hlisted.1
      have hhigh : d.year ≤ (Date.later now start).year + 1 := hd.searched
      exact hnone d hlisted.1 (by omega) hlisted.2

end FirstDue

/-- A search that leaves the calendar is not starved. -/
theorem LeavesCalendar.not_starved {rule : Rule} {now start : Date}
    (hleaves : rule.LeavesCalendar now start) : ¬ rule.Starved (Date.later now start) := by
  cases rule with
  | daily interval => exact id
  | yearly => exact id
  | weekly weekdays => exact id
  | monthly days months =>
      rintro ⟨hyear, -⟩
      have hlast : (Date.later now start).year = 9999 := hleaves.1
      omega

end Rule

end Agenda
