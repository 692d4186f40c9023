import Agenda.Calendar.DayNumber
import Agenda.Text.Integer
/-!
# Shifting by years

The same day of another year. Only 29 February can be missing there; its place is taken by 1 March.

* `Date.addYears` — the shifted date, or the year that the calendar does not have.
* `Date.year_of_addYears` — the year of the result is the year asked for.
-/

namespace Agenda
namespace Date

theorem isDate_firstOfMarch {year : Nat} (hyear : firstYear ≤ year ∧ year ≤ lastYear) :
    IsDate year 3 1 :=
  ⟨hyear, by decide, by simp [monthLength]⟩

/-- The same month and day in a year of the calendar, or 1 March of it where that day is missing. -/
def inYear (d : Date) (year : Nat) (hyear : firstYear ≤ year ∧ year ≤ lastYear) : Date :=
  match ofParts? year d.month d.day with
  | some e => e
  | none => ⟨year, 3, 1, isDate_firstOfMarch hyear⟩

theorem year_inYear (d : Date) (year : Nat) (hyear : firstYear ≤ year ∧ year ≤ lastYear) :
    (d.inYear year hyear).year = year := by
  unfold inYear
  split
  · next e he => exact (ofParts?_eq_some_iff.1 he).1
  · rfl

/-- The date some years later, or earlier when the number is negative. A year outside of the calendar is
told, unless it has more digits than an integer text may have. -/
def addYears (d : Date) (years : Int) : Except CalendarError Date :=
  let year := (d.year : Int) + years
  if h : firstYear ≤ year.toNat ∧ year.toNat ≤ lastYear then .ok (d.inYear year.toNat h)
  else if (Text.decimal year.natAbs).length ≤ Text.maxIntegerDigits then .error (.beyondLastYear year)
  else .error .yearTooLong

/-- The year of a shifted date is the year asked for. -/
theorem year_of_addYears {d e : Date} {years : Int} (h : d.addYears years = .ok e) :
    (e.year : Int) = d.year + years := by
  unfold addYears at h
  simp only at h
  split at h
  · next hyear =>
      obtain rfl := Except.ok.inj h
      rw [year_inYear]
      have hpos : 1 ≤ ((d.year : Int) + years).toNat := hyear.1
      omega
  · split at h <;> exact absurd h (by simp)

end Date
end Agenda
