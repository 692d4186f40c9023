import Agenda.Proofs.Calendar.YearShifts
import Agenda.Proofs.Recurrence.Due
import Mathlib.Tactic.Positivity
import Mathlib.Tactic.Ring
/-!
# Daily and yearly rules

Both are followed by stepping from the present date until the reference day is passed.  The stepping
ends, and where it ends is the first due date, or a day beyond the calendar.

* `firstAfter_spec` — stepping by days stops at the first multiple after the bound.
* `nextDaily_eq_addDays` — stepping by days is one move to the place where it stops.
* `nextDaily_cases` — the outcomes of a daily rule.
* `Date.parts_of_addYears_one`, `Date.year_of_addYears_one_eq_error` — one step of a yearly rule leads to
  the anniversary in the next year, or out of the calendar.
* `nextYearly_cases`, `nextYearly_firstDue_cases` — the outcomes of a yearly rule.
-/

namespace Agenda

/-! ## Daily rules -/

/-- Stepping stops after the bound, at a place that is as few steps away as possible. -/
theorem firstAfter_spec (bound x : Int) {step : Int} (hstep : 0 < step) :
    ∃ k : Nat, firstAfter bound step x = x + k * step ∧ bound < x + k * step
      ∧ ∀ j : Nat, bound < x + j * step → k ≤ j := by
  fun_induction firstAfter bound step x with
  | case1 x hbefore ih =>
      obtain ⟨k, heq, hafter, hleast⟩ := ih
      have hsucc : ∀ j : Nat, x + ((j + 1 : Nat) : Int) * step = x + step + j * step := by
        intro j
        push_cast
        ring
      refine ⟨k + 1, ?_, ?_, ?_⟩
      · rw [heq, hsucc]
      · rw [hsucc]
        exact hafter
      · intro j hj
        -- No step at all would leave `x` where it is, before the bound.
        cases j with
        | zero =>
            simp only [Nat.cast_zero, zero_mul, add_zero] at hj
            omega
        | succ j =>
            rw [hsucc] at hj
            exact Nat.succ_le_succ (hleast j hj)
  | case2 x hafter =>
      have hpassed : bound < x := by omega
      exact ⟨0, by simp, by simpa using hpassed, fun j _ => Nat.zero_le j⟩

theorem firstAfter_eq_self {bound step x : Int} (hx : bound < x) : firstAfter bound step x = x := by
  unfold firstAfter
  rw [if_neg (by omega)]

/-- The steps of a daily rule, as numbers of days. -/
theorem dueOn_daily_iff {interval : Int} {start : Date} {n : Nat} :
    (Rule.daily interval).DueOn start n
      ↔ ∃ j : Nat, (n : Int) = start.dayNumber + interval + j * interval := by
  constructor
  · rintro ⟨k, hk, hn⟩
    obtain ⟨j, rfl⟩ : ∃ j, k = j + 1 := ⟨k - 1, by omega⟩
    refine ⟨j, ?_⟩
    rw [hn]
    push_cast
    ring
  · rintro ⟨j, hn⟩
    refine ⟨j + 1, by omega, ?_⟩
    rw [hn]
    push_cast
    ring

/-- The day at which a daily rule arrives, whether the calendar has it or not. -/
theorem exists_dailyStep (now start : Date) {interval : Int} (hinterval : 1 ≤ interval) :
    ∃ n : Nat, IsLeast {m | (Rule.daily interval).DueOn start m ∧ now.dayNumber < m} n
      ∧ firstAfter now.dayNumber interval (start.dayNumber + interval) = n := by
  obtain ⟨k, heq, hafter, hleast⟩ :=
    firstAfter_spec now.dayNumber (start.dayNumber + interval) (show 0 < interval by omega)
  have hnonneg : 0 ≤ (k : Int) * interval := by positivity
  obtain ⟨n, hn⟩ : ∃ n : Nat, (n : Int) = start.dayNumber + interval + k * interval :=
    ⟨(start.dayNumber + interval + k * interval).toNat, by omega⟩
  refine ⟨n, ⟨⟨dueOn_daily_iff.2 ⟨k, hn⟩, by omega⟩, ?_⟩, by omega⟩
  rintro m ⟨hdue, hm⟩
  obtain ⟨j, hj⟩ := dueOn_daily_iff.1 hdue
  have hkj : k ≤ j := hleast j (by omega)
  have hmul : (k : Int) * interval ≤ j * interval :=
    mul_le_mul_of_nonneg_right (by exact_mod_cast hkj) (by omega)
  omega

/-- Stepping to a date and moving there at once are the same, also in how they fail: if the first step
leaves the calendar, so do all further ones. -/
theorem nextDaily_eq_addDays (now start : Date) {interval : Int} (hinterval : 1 ≤ interval) :
    nextDaily now start interval
      = start.addDays (firstAfter now.dayNumber interval (start.dayNumber + interval)
          - start.dayNumber) := by
  obtain ⟨n, ⟨⟨hdue, -⟩, -⟩, hstep⟩ := exists_dailyStep now start hinterval
  unfold nextDaily
  cases hfirst : start.addDays interval with
  | error cause =>
      -- The place where the stepping stops is no nearer than the first step.
      obtain rfl := Date.cause_of_addDays hfirst
      have hout := Date.addDays_eq_error_iff.1 hfirst
      obtain ⟨j, hj⟩ := dueOn_daily_iff.1 hdue
      have hnonneg : 0 ≤ (j : Int) * interval := by positivity
      have hbeyond : start.addDays ((n : Int) - start.dayNumber) = .error .beyondLastDay :=
        Date.addDays_eq_error_iff.2 (by omega)
      rw [hstep, hbeyond]
      rfl
  | ok next =>
      have hnumber := Date.addDays_eq_ok_iff.1 hfirst
      show (if now < next then Except.ok next
        else if interval ≤ 0 then Except.error CalendarError.beyondLastDay
        else start.addDays (firstAfter now.dayNumber interval next.dayNumber - start.dayNumber)) = _
      by_cases hafter : now < next
      · rw [if_pos hafter]
        rw [Date.lt_iff] at hafter
        rw [firstAfter_eq_self (by omega), add_sub_cancel_left, hfirst]
      · rw [if_neg hafter, if_neg (by omega), hnumber]

/-- A daily rule ends at the first due day, or fails because this day lies beyond the calendar. -/
theorem nextDaily_cases (now start : Date) {interval : Int} (hinterval : 1 ≤ interval) :
    (∃ d, nextDaily now start interval = .ok d ∧ (Rule.daily interval).FirstDue now start d)
      ∨ (nextDaily now start interval = .error .beyondLastDay
        ∧ (Rule.daily interval).LeavesCalendar now start) := by
  obtain ⟨n, hleast, hstep⟩ := exists_dailyStep now start hinterval
  rw [nextDaily_eq_addDays now start hinterval, hstep]
  rcases Rule.firstDue_of_addDays_cases start (n - start.dayNumber) hleast (fun _ => trivial) (by omega) with
    ⟨d, hd, hdue⟩ | ⟨herror, hbeyond⟩
  · exact Or.inl ⟨d, hd, hdue⟩
  · exact Or.inr ⟨herror, n, hleast, hbeyond⟩

/-! ## Yearly rules -/

namespace Date

/-- The anniversary of a date exists in every year. -/
theorem anniversary_bounds (d : Date) (year : Nat) :
    (1 ≤ d.anniversary.1 ∧ d.anniversary.1 ≤ 12)
      ∧ 1 ≤ d.anniversary.2 ∧ d.anniversary.2 ≤ monthLength year d.anniversary.1 := by
  unfold anniversary
  by_cases hleapDay : d.month = 2 ∧ d.day = 29
  · rw [if_pos hleapDay]
    exact ⟨by decide, by decide, by simp [monthLength]⟩
  · rw [if_neg hleapDay]
    exact ⟨d.month_bounds, d.day_bounds.1,
      (d.day_le_monthLength_iff year).2 fun hmissing => hleapDay hmissing.1⟩

theorem anniversaryNumber_lt (d : Date) {year later : Nat} (hyear : 1 ≤ year)
    (hlater : year < later) : d.anniversaryNumber year < d.anniversaryNumber later :=
  dayNumberOf_lt_of_year_lt hyear (d.anniversary_bounds year).1 (d.anniversary_bounds year).2.2
    (d.anniversary_bounds later).2.1 hlater

/-- The anniversary in the year after the last one lies beyond the calendar. -/
theorem lastDayNumber_lt_anniversaryNumber (d : Date) : lastDayNumber < d.anniversaryNumber 10000 := by
  have hend : daysBeforeYear 10000 = lastDayNumber := by decide
  rw [← hend]
  exact daysBeforeYear_lt_dayNumberOf (d.anniversary_bounds 10000).2.1

theorem anniversary_ne_leapDay (d : Date) : ¬ (d.anniversary.1 = 2 ∧ d.anniversary.2 = 29) := by
  unfold anniversary
  by_cases hleapDay : d.month = 2 ∧ d.day = 29
  · rw [if_pos hleapDay]
    decide
  · rw [if_neg hleapDay]
    exact hleapDay

/-- A date on the anniversary of another one has the same anniversary. -/
theorem anniversary_eq_of_parts {d e : Date} (hparts : (e.month, e.day) = d.anniversary) :
    e.anniversary = d.anniversary := by
  have hnot := d.anniversary_ne_leapDay
  rw [← hparts] at hnot
  unfold anniversary
  rw [if_neg hnot, hparts]
  rfl

theorem anniversaryNumber_eq_of_parts {d e : Date} (hparts : (e.month, e.day) = d.anniversary) :
    d.anniversaryNumber e.year = e.dayNumber := by
  rw [dayNumber_eq, anniversaryNumber, ← hparts]

/-- A step of a year leads to the anniversary in the next year. -/
theorem parts_of_addYears_one {d e : Date} (hstep : d.addYears 1 = .ok e) :
    e.year = d.year + 1 ∧ (e.month, e.day) = d.anniversary := by
  obtain ⟨hyear, hparts⟩ := addYears_eq_ok_iff.1 hstep
  have hnext : e.year = d.year + 1 := by omega
  refine ⟨hnext, hparts.trans ?_⟩
  unfold anniversary
  by_cases hleapDay : d.IsLeapDay
  · -- 29 February is a day of a leap year, and the next year is none.
    rw [if_pos ⟨hleapDay, hnext ▸ isLeapYear_succ hleapDay.isLeapYear⟩]
    exact (if_pos hleapDay).symm
  · rw [if_neg fun hmissing => hleapDay hmissing.1]
    exact (if_neg hleapDay).symm

/-- A step of a year leaves the calendar in its last year only. -/
theorem year_of_addYears_one_eq_error {d : Date} {cause : CalendarError}
    (hstep : d.addYears 1 = .error cause) : d.year = 9999 ∧ cause = .beyondLastYear 10000 := by
  obtain ⟨hout, hcause⟩ := addYears_eq_error_iff.1 hstep
  have hlast := d.year_le
  have hend : d.year = 9999 := by omega
  have hlarge : 10 ^ 5 ≤ 10 ^ Text.maxIntegerDigits := Nat.pow_le_pow_right (by decide) (by decide)
  refine ⟨hend, ?_⟩
  rw [hcause, hend, if_pos (Nat.lt_of_lt_of_le (by decide) hlarge)]
  rfl

/-- When the next year's anniversary has passed, the anniversaries from a date have passed as far as those
from there have. -/
theorem anniversaries_passed_of_step {now d e : Date} (hstep : d.addYears 1 = .ok e) (hpassed : e ≤ now)
    {inside : Nat → Prop}
    (hlater : ∀ year, e.year < year → inside year → e.anniversaryNumber year ≤ now.dayNumber) :
    ∀ year, d.year < year → inside year → d.anniversaryNumber year ≤ now.dayNumber := by
  obtain ⟨hyear, hparts⟩ := parts_of_addYears_one hstep
  intro year hlow hinside
  by_cases hnext : year = e.year
  · rw [hnext, anniversaryNumber_eq_of_parts hparts]
    exact hpassed
  · have hyears := hlater year (by omega) hinside
    rw [anniversaryNumber, anniversary_eq_of_parts hparts] at hyears
    exact hyears

end Date

/-- A yearly rule ends at the anniversary in the first year in which it comes after the reference day,
or fails because no year of the calendar is late enough. -/
theorem nextYearly_cases (now start : Date) :
    (∃ d, nextYearly now start = .ok d ∧ start.year < d.year ∧ (d.month, d.day) = start.anniversary
        ∧ now < d
        ∧ ∀ year, start.year < year → year < d.year → start.anniversaryNumber year ≤ now.dayNumber)
      ∨ (nextYearly now start = .error (.beyondLastYear 10000)
        ∧ ∀ year, start.year < year → year ≤ 9999 →
          start.anniversaryNumber year ≤ now.dayNumber) := by
  -- The induction is on the steps; all of them have the same anniversary.
  fun_induction nextYearly now start with
  | case1 start cause hstep =>
      obtain ⟨hend, rfl⟩ := Date.year_of_addYears_one_eq_error hstep
      refine Or.inr ⟨rfl, ?_⟩
      intro year hlow hhigh
      omega
  | case2 start next hstep hbefore ih =>
      obtain ⟨hyear, hparts⟩ := Date.parts_of_addYears_one hstep
      rcases ih with ⟨d, hd, hlater, hdparts, hafter, hleast⟩ | ⟨herror, hnone⟩
      · exact Or.inl ⟨d, hd, by omega, hdparts.trans (Date.anniversary_eq_of_parts hparts), hafter,
          Date.anniversaries_passed_of_step hstep hbefore hleast⟩
      · exact Or.inr ⟨herror, Date.anniversaries_passed_of_step hstep hbefore hnone⟩
  | case3 start next hstep hafter =>
      obtain ⟨hyear, hparts⟩ := Date.parts_of_addYears_one hstep
      refine Or.inl ⟨next, rfl, by omega, hparts, Nat.not_le.1 hafter, ?_⟩
      intro year hlow hhigh
      omega

/-- A yearly rule ends at the first due day, or fails because this day lies beyond the calendar. -/
theorem nextYearly_firstDue_cases (now start : Date) :
    (∃ d, nextYearly now start = .ok d ∧ Rule.yearly.FirstDue now start d)
      ∨ (nextYearly now start = .error (.beyondLastYear 10000)
        ∧ Rule.yearly.LeavesCalendar now start) := by
  have hstart := start.one_le_year
  rcases nextYearly_cases now start with ⟨d, hd, hyear, hparts, hafter, hleast⟩ | ⟨herror, hnone⟩
  · have hnumber := (Date.anniversaryNumber_eq_of_parts hparts).symm
    refine Or.inl ⟨d, hd, ⟨d.year, hyear, hnumber⟩, hafter, ?_, trivial⟩
    rintro n ⟨year, hlow, rfl⟩ hn
    rw [hnumber]
    by_cases hsame : year = d.year
    · rw [hsame]
    · by_cases hearly : year < d.year
      · have hpast := hleast year hlow hearly
        omega
      · exact (start.anniversaryNumber_lt d.one_le_year (by omega)).le
  · -- The anniversary of the year after the last one is due, but lies beyond the calendar.
    have hbeyond := start.lastDayNumber_lt_anniversaryNumber
    have hnow := now.dayNumber_le_lastDayNumber
    have hlast := start.year_le
    refine Or.inr ⟨herror, start.anniversaryNumber 10000, ?_, hbeyond⟩
    refine ⟨⟨⟨10000, by omega, rfl⟩, by omega⟩, ?_⟩
    rintro n ⟨⟨year, hlow, rfl⟩, hn⟩
    by_cases hinside : year ≤ 9999
    · have hpast := hnone year hlow hinside
      omega
    · by_cases hsame : year = 10000
      · rw [hsame]
      · exact (start.anniversaryNumber_lt (by omega) (by omega)).le

end Agenda
