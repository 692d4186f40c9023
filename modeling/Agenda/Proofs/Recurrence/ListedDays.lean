import Agenda.Proofs.Recurrence.Searching
import Mathlib.Data.List.Sort
/-!
# The listed days of a month

A list of signed days stands for certain days of a month, whatever the order of its entries and however often they
are repeated.  A negative entry is counted back from the first day of the following month, also from the one that
would follow the last month of the calendar.

* `nextMonth`, `firstOfNextMonth` — the month after a month, and the number of its first day.
* `exists_countedBack` — the date that a negative entry stands for.
* `resolveDays_congr` — only the entries of a list matter, not their order and number.
* `resolveDays_resolves` — what the entries of a list stand for, and which of the days a month has.
-/

namespace Agenda

/-- The month that follows a month, with its year. -/
def nextMonth (year month : Nat) : Nat × Nat :=
  if month = 12 then (year + 1, 1) else (year, month + 1)

/-- The number of the first day of the following month.  After the last month of the calendar it is the number of no
date. -/
def firstOfNextMonth (year month : Nat) : Nat :=
  dayNumberOf (nextMonth year month).1 (nextMonth year month).2 1

section Month

variable {year month : Nat} (hyear : 1 ≤ year ∧ year ≤ 9999) (hmonth : 1 ≤ month ∧ month ≤ 12)
include hyear hmonth

/-- A month ends on the day before the first day of the following one. -/
theorem firstOfNextMonth_eq :
    firstOfNextMonth year month = dayNumberOf year month (monthLength year month) + 1 := by
  have hend : daysBeforeMonth year (month + 1) = daysBeforeMonth year month + monthLength year month :=
    daysBeforeMonth_succ hmonth.1
  unfold firstOfNextMonth nextMonth dayNumberOf
  by_cases hlast : month = 12
  · have hturn : daysBeforeYear (year + 1) = daysBeforeYear year + yearLength year :=
      daysBeforeYear_succ hyear.1
    have hfirst : daysBeforeMonth (year + 1) 1 = 0 := rfl
    rw [hlast, daysBeforeMonth_thirteen] at hend
    rw [if_pos hlast, hlast]
    simp only [hturn, hfirst]
    omega
  · rw [if_neg hlast]
    simp only [hend]
    omega

/-- A negative entry stands for the date that comes out when its days are added to the first day of the following
month, as long as this is not before the month. -/
theorem exists_countedBack {day : Int} (hnegative : day < 0) (hday : -(monthLength year month : Int) ≤ day) :
    ∃ d : Date, (d.year = year ∧ d.month = month ∧ (d.day : Int) = (monthLength year month : Int) + 1 + day)
      ∧ (d.dayNumber : Int) = firstOfNextMonth year month + day := by
  have hdate : IsDate year month ((monthLength year month : Int) + 1 + day).toNat :=
    ⟨hyear, hmonth, by omega, by omega⟩
  have hday' : ((((monthLength year month : Int) + 1 + day).toNat : Nat) : Int)
      = (monthLength year month : Int) + 1 + day := by omega
  refine ⟨⟨year, month, _, hdate⟩, ⟨rfl, rfl, hday'⟩, ?_⟩
  rw [Date.dayNumber_eq, firstOfNextMonth_eq hyear hmonth]
  unfold dayNumberOf
  push_cast [hday']
  omega

/-- Two lists with the same entries stand for the same days. -/
theorem resolveDays_congr {days days' resolved : List Int}
    (hdays : ∀ day ∈ days, -(monthLength year month : Int) ≤ day) (hsame : ∀ x, x ∈ days' ↔ x ∈ days)
    (hresolved : resolveDays days year month = .ok resolved) : resolveDays days' year month = .ok resolved := by
  obtain ⟨own, hown, hsorted, hmem⟩ := resolveDays_spec hyear hmonth hdays
  obtain rfl := Except.ok.inj (hown.symm.trans hresolved)
  obtain ⟨other, hother, hsorted', hmem'⟩ :=
    resolveDays_spec hyear hmonth fun day hday => hdays day ((hsame day).1 hday)
  have heq : other = own := by
    apply hsorted'.eq_of_mem_iff hsorted
    intro x
    rw [hmem, hmem', hsame x]
    simp only [hsame]
  rw [hother, heq]

end Month

/-- In a month of the calendar a list of signed days, none of which reaches back before the month, stands for an
ascending list: for its entries that are not negative, and for the others counted back from the first day of the
following month, as adding their days to that day gives it wherever the calendar has it.  A rule keeps the days that
the month has, in this order.  Only the entries matter, not their order and number. -/
theorem resolveDays_resolves {year month : Nat} (hyear : 1 ≤ year ∧ year ≤ 9999) (hmonth : 1 ≤ month ∧ month ≤ 12)
    {days : List Int} (hdays : ∀ day ∈ days, -(monthLength year month : Int) ≤ day) :
    (lastDayOfMonth year month = .ok (monthLength year month)
      ∧ firstOfNextMonth year month = dayNumberOf year month 1 + monthLength year month)
    ∧ ∃ resolved listed, resolveDays days year month = .ok resolved ∧ listedDays days year month = .ok listed
      ∧ resolved.Pairwise (· < ·)
      ∧ (∀ x, x ∈ resolved ↔ (0 ≤ x ∧ x ∈ days)
        ∨ ∃ day ∈ days, day < 0 ∧ x = (monthLength year month : Int) + 1 + day)
      ∧ (∀ day ∈ days, day < 0 →
        ∃ d : Date, (d.year = year ∧ d.month = month ∧ (d.day : Int) = (monthLength year month : Int) + 1 + day)
          ∧ (d.dayNumber : Int) = firstOfNextMonth year month + day
          ∧ ∀ first : Date, (first.year, first.month) = nextMonth year month → first.day = 1 →
            first.addDays day = .ok d)
      ∧ (listed.Sublist resolved ∧ ∀ x, x ∈ listed ↔ x ∈ resolved ∧ x ≤ monthLength year month)
      ∧ ∀ days', (∀ x, x ∈ days' ↔ x ∈ days) →
        resolveDays days' year month = .ok resolved ∧ listedDays days' year month = .ok listed := by
  obtain ⟨resolved, hresolved, hsorted, hmem⟩ := resolveDays_spec hyear hmonth hdays
  refine ⟨⟨lastDayOfMonth_eq hyear hmonth, ?_⟩, resolved, _, hresolved,
    listedDays_of_resolveDays hyear hmonth hresolved, hsorted, hmem, fun day hday hnegative => ?_,
    ⟨List.filter_sublist, fun x => by rw [List.mem_filter, decide_eq_true_eq]⟩, fun days' hsame => ?_⟩
  · rw [firstOfNextMonth_eq hyear hmonth]
    unfold dayNumberOf
    omega
  · obtain ⟨d, hparts, hnumber⟩ := exists_countedBack hyear hmonth hnegative (hdays day hday)
    refine ⟨d, hparts, hnumber, fun first hnext hone => ?_⟩
    have hfirst : first.dayNumber = firstOfNextMonth year month := by
      rw [Date.dayNumber_eq, hone, firstOfNextMonth, ← hnext]
    rw [Date.addDays_eq_ok_iff, hfirst, hnumber]
  · have hresolved' := resolveDays_congr hyear hmonth hdays hsame hresolved
    exact ⟨hresolved', listedDays_of_resolveDays hyear hmonth hresolved'⟩

/-- In the last month of the calendar the entries are counted back from a day that is no date. -/
theorem resolveDays_resolves_lastMonth :
    let days : List Int := [40, 31, -1, -31, 0, 31]
    (∀ day ∈ days, -(monthLength 9999 12 : Int) ≤ day)
      ∧ firstOfNextMonth 9999 12 = lastDayNumber + 1
      ∧ (resolveDays days 9999 12 = .ok [0, 1, 31, 40] ∧ listedDays days 9999 12 = .ok [0, 1, 31])
      ∧ resolveDays [-31, -1, 0, 31, 40] 9999 12 = .ok [0, 1, 31, 40]
      ∧ ∃ d : Date, (d.day : Int) = 31 + 1 + -31 ∧ (d.dayNumber : Int) = ((lastDayNumber + 1 : Nat) : Int) + -31 := by
  intro days
  have hdays : ∀ day ∈ days, -(monthLength 9999 12 : Int) ≤ day := by decide
  have hfirst : firstOfNextMonth 9999 12 = lastDayNumber + 1 := by decide
  have hdecided : resolveDays days 9999 12 = .ok [0, 1, 31, 40] := by decide
  obtain ⟨-, resolved, listed, hresolved, -, -, -, hback, -, hsame⟩ :=
    resolveDays_resolves (by decide) (by decide) hdays
  obtain rfl := Except.ok.inj (hresolved.symm.trans hdecided)
  obtain ⟨d, ⟨-, -, hday⟩, hnumber, -⟩ := hback (-31) (by decide) (by decide)
  rw [hfirst] at hnumber
  refine ⟨hdays, hfirst, ⟨hdecided, by decide⟩, (hsame [-31, -1, 0, 31, 40] fun x => ?_).1, d, hday, hnumber⟩
  simp only [days, List.mem_cons, List.not_mem_nil, or_false]
  tauto

end Agenda
