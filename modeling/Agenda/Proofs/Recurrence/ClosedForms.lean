import Agenda.Proofs.Recurrence.MonthlyWindow
/-!
# Closed forms of the stepping

A daily and a yearly rule step on from the present date of a task until the reference day is passed.  Here the
stepping is put down as a relation, with one derivation for each run of it that comes to an end, and the end is
computed without it.

* `StepsPast` — a run of steps that ends after the reference day or with an error.
* `stepsPast_nextDaily`, `stepsPast_nextYearly` — both kinds of stepping come to an end.
* `stepCount`, `isLeast_stepCount` — how many steps of so many days lead past the reference day.
* `nextDaily_closedForm` — a daily rule goes this number of steps, or out of the calendar with the last one.
* `nextYearly_closedForm` — a yearly rule goes to its anniversary in the first year in which this comes after
  the reference day.
-/

namespace Agenda

/-! ## Runs of steps -/

/-- Stepping on from a date, at least once and until a date comes after the reference day, ends with this date
or with the error of a step. -/
inductive StepsPast (step : Date → Except CalendarError Date) (now : Date) :
    Date → Except CalendarError Date → Prop
  | fails {d : Date} {cause : CalendarError} (hstep : step d = .error cause) :
      StepsPast step now d (.error cause)
  | arrives {d e : Date} (hstep : step d = .ok e) (hafter : now < e) : StepsPast step now d (.ok e)
  | goesOn {d e : Date} {result : Except CalendarError Date} (hstep : step d = .ok e) (hbefore : e ≤ now)
      (hrest : StepsPast step now e result) : StepsPast step now d result

/-- Stepping on has one end at most. -/
theorem StepsPast.unique {step : Date → Except CalendarError Date} {now d : Date}
    {result result' : Except CalendarError Date} (h : StepsPast step now d result)
    (h' : StepsPast step now d result') : result = result' := by
  induction h with
  | fails hstep =>
      cases h' with
      | fails hstep' => rw [← hstep, hstep']
      | arrives hstep' => cases hstep.symm.trans hstep'
      | goesOn hstep' => cases hstep.symm.trans hstep'
  | arrives hstep hafter =>
      cases h' with
      | fails hstep' => cases hstep.symm.trans hstep'
      | arrives hstep' => rw [← hstep, hstep']
      | goesOn hstep' hbefore =>
          obtain rfl := Except.ok.inj (hstep.symm.trans hstep')
          exact absurd hbefore (Nat.not_le.2 hafter)
  | goesOn hstep hbefore _ ih =>
      cases h' with
      | fails hstep' => cases hstep.symm.trans hstep'
      | arrives hstep' hafter =>
          obtain rfl := Except.ok.inj (hstep.symm.trans hstep')
          exact absurd hbefore (Nat.not_le.2 hafter)
      | goesOn hstep' _ hrest' =>
          obtain rfl := Except.ok.inj (hstep.symm.trans hstep')
          exact ih hrest'

/-! ## Steps of days -/

/-- Only the day that is arrived at matters for a move. -/
theorem Date.addDays_congr {d e : Date} {m n : Int} (hsum : (d.dayNumber : Int) + m = e.dayNumber + n) :
    d.addDays m = e.addDays n := by
  simp only [addDays, hsum]

/-- A step of a daily rule that does not pass the reference day changes nothing about its end. -/
theorem nextDaily_of_addDays {now start next : Date} {interval : Int} (hinterval : 1 ≤ interval)
    (hstep : start.addDays interval = .ok next) (hbefore : next ≤ now) :
    nextDaily now start interval = nextDaily now next interval := by
  have hnumber := Date.addDays_eq_ok_iff.1 hstep
  rw [Date.le_iff] at hbefore
  have hfirst : firstAfter now.dayNumber interval (start.dayNumber + interval)
      = firstAfter now.dayNumber interval (next.dayNumber + interval) := by
    rw [firstAfter, if_pos (by omega), hnumber]
  rw [nextDaily_eq_addDays now start hinterval, nextDaily_eq_addDays now next hinterval, hfirst]
  exact Date.addDays_congr (by omega)

/-- The stepping of a daily rule comes to an end, which is its outcome. -/
theorem stepsPast_nextDaily (now start : Date) {interval : Int} (hinterval : 1 ≤ interval) :
    StepsPast (fun d => d.addDays interval) now start (nextDaily now start interval) := by
  -- The induction is on the days that are left in the calendar; each step takes one of them at least.
  induction hleft : lastDayNumber - start.dayNumber using Nat.strongRecOn generalizing start with
  | ind left ih =>
      cases hstep : start.addDays interval with
      | error cause =>
          have hend : nextDaily now start interval = .error cause := by
            simp [nextDaily, hstep, bind, Except.bind]
          rw [hend]
          exact .fails hstep
      | ok next =>
          by_cases hafter : now < next
          · have hend : nextDaily now start interval = .ok next := by
              simp [nextDaily, hstep, bind, Except.bind, hafter, pure, Except.pure]
            rw [hend]
            exact .arrives hstep hafter
          · have hbefore : next ≤ now := Nat.not_lt.1 hafter
            have hnumber := Date.addDays_eq_ok_iff.1 hstep
            have hlast := next.dayNumber_le_lastDayNumber
            rw [nextDaily_of_addDays hinterval hstep hbefore]
            exact .goesOn hstep hbefore (ih _ (by omega) next rfl)

/-- The number of steps of so many days that a daily rule takes from a date: one at least, and otherwise the
quotient of the days to the reference day, rounded down, and one more. -/
def stepCount (now start : Date) (interval : Int) : Int :=
  max 1 (((now.dayNumber : Int) - start.dayNumber) / interval + 1)

/-- No smaller number of steps leads past the reference day. -/
theorem isLeast_stepCount (now start : Date) {interval : Int} (hinterval : 1 ≤ interval) :
    IsLeast {j : Int | 1 ≤ j ∧ (now.dayNumber : Int) < start.dayNumber + j * interval}
      (stepCount now start interval) := by
  unfold stepCount
  refine ⟨⟨le_max_left _ _, ?_⟩, ?_⟩
  · have hdays := Int.lt_ediv_add_one_mul_self ((now.dayNumber : Int) - start.dayNumber)
      (show 0 < interval by omega)
    have hmul : (((now.dayNumber : Int) - start.dayNumber) / interval + 1) * interval
        ≤ max 1 (((now.dayNumber : Int) - start.dayNumber) / interval + 1) * interval :=
      mul_le_mul_of_nonneg_right (le_max_right _ _) (by omega)
    omega
  · rintro j ⟨hj, hafter⟩
    have hquotient : ((now.dayNumber : Int) - start.dayNumber) / interval < j :=
      Int.ediv_lt_of_lt_mul (by omega) (by omega)
    exact max_le hj (by omega)

/-- All steps of a daily rule together are one move. -/
theorem nextDaily_eq_addDays_stepCount (now start : Date) {interval : Int} (hinterval : 1 ≤ interval) :
    nextDaily now start interval = start.addDays (stepCount now start interval * interval) := by
  obtain ⟨k, heq, hafter, hleast⟩ :=
    firstAfter_spec now.dayNumber (start.dayNumber + interval) (show 0 < interval by omega)
  have hsucc : ∀ j : Int, (start.dayNumber : Int) + interval + (j - 1) * interval
      = start.dayNumber + j * interval := by
    intro j
    ring
  have hcount : IsLeast {j : Int | 1 ≤ j ∧ (now.dayNumber : Int) < start.dayNumber + j * interval}
      (k + 1) := by
    have hk := hsucc (k + 1)
    rw [add_sub_cancel_right] at hk
    refine ⟨⟨by omega, by rw [← hk]; exact hafter⟩, ?_⟩
    rintro j ⟨hj, hpassed⟩
    obtain ⟨i, hi⟩ := Int.eq_ofNat_of_zero_le (show 0 ≤ j - 1 by omega)
    have hki : k ≤ i := hleast i (by rw [← hi, hsucc]; exact hpassed)
    omega
  rw [nextDaily_eq_addDays now start hinterval, heq,
    ← hcount.unique (isLeast_stepCount now start hinterval)]
  congr 1
  ring

/-- The steps of a daily rule come to an end, after as many of them as are needed to pass the reference day.  The
last step leaves the calendar exactly if the day that it leads to lies beyond it; all steps before it lead to
dates that are not after the reference day. -/
theorem nextDaily_closedForm (now start : Date) {interval : Int} (hinterval : 1 ≤ interval) :
    (∀ result, StepsPast (fun d => d.addDays interval) now start result
      ↔ result = nextDaily now start interval)
    ∧ IsLeast {j : Int | 1 ≤ j ∧ (now.dayNumber : Int) < start.dayNumber + j * interval}
      (stepCount now start interval)
    ∧ (∀ d, nextDaily now start interval = .ok d
      ↔ (d.dayNumber : Int) = start.dayNumber + stepCount now start interval * interval)
    ∧ ((∃ d, nextDaily now start interval = .ok d)
      ↔ start.dayNumber + stepCount now start interval * interval ≤ lastDayNumber)
    ∧ (nextDaily now start interval = .error .beyondLastDay
      ↔ (lastDayNumber : Int) < start.dayNumber + stepCount now start interval * interval)
    ∧ ∀ j, 1 ≤ j → j < stepCount now start interval →
      ∃ e, start.addDays (j * interval) = .ok e ∧ e ≤ now := by
  have hrun := stepsPast_nextDaily now start hinterval
  have hcount := isLeast_stepCount now start hinterval
  have hmove := nextDaily_eq_addDays_stepCount now start hinterval
  have hpositive : (1 : Int) ≤ start.dayNumber := by exact_mod_cast start.one_le_dayNumber
  have hfails : nextDaily now start interval = .error .beyondLastDay
      ↔ (lastDayNumber : Int) < start.dayNumber + stepCount now start interval * interval := by
    have hpassed := hcount.1.2
    rw [hmove, Date.addDays_eq_error_iff]
    omega
  refine ⟨fun result => ⟨fun h => h.unique hrun, ?_⟩, hcount, fun d => ?_, ?_, hfails, ?_⟩
  · rintro rfl
    exact hrun
  · rw [hmove, Date.addDays_eq_ok_iff]
  · rw [← not_lt, ← hfails]
    cases hresult : nextDaily now start interval with
    | ok d => simp
    | error cause =>
        rw [hmove] at hresult
        simp [Date.cause_of_addDays hresult]
  · intro j hj hless
    -- Fewer steps do not pass the reference day, so they stay in the calendar.
    have hbefore : start.dayNumber + j * interval ≤ now.dayNumber := by
      by_contra hpassed
      have hle : stepCount now start interval ≤ j := hcount.2 ⟨hj, by omega⟩
      omega
    have hnonneg : 0 ≤ j * interval := by positivity
    have hlast := now.dayNumber_le_lastDayNumber
    obtain ⟨e, he⟩ := Date.exists_dayNumber_eq (n := (start.dayNumber + j * interval).toNat)
      (by omega) (by omega)
    exact ⟨e, Date.addDays_eq_ok_iff.2 (by omega), Date.le_iff.2 (by omega)⟩

/-- Weekly steps from 1 December 2023 pass 26 January 2024, itself a step, with the ninth one.  A present date
in the future is left by one step.  The third of three steps leaves the calendar. -/
theorem nextDaily_closedForm_weeks :
    let now : Date := ⟨2024, 1, 26, by decide⟩
    let start : Date := ⟨2023, 12, 1, by decide⟩
    let last : Date := ⟨9999, 12, 30, by decide⟩
    (1 : Int) ≤ 7
      ∧ stepCount now start 7 = 9 ∧ nextDaily now start 7 = .ok ⟨2024, 2, 2, by decide⟩
      ∧ StepsPast (fun d => d.addDays 7) now start (.ok ⟨2024, 2, 2, by decide⟩)
      ∧ stepCount start now 7 = 1 ∧ nextDaily start now 7 = .ok ⟨2024, 2, 2, by decide⟩
      ∧ stepCount last ⟨9999, 12, 16, by decide⟩ 7 = 3
      ∧ nextDaily last ⟨9999, 12, 16, by decide⟩ 7 = .error .beyondLastDay := by
  intro now start last
  have hinterval : (1 : Int) ≤ 7 := by decide
  have hnine : stepCount now start 7 = 9 := by decide +kernel
  have hone : stepCount start now 7 = 1 := by decide +kernel
  have hthree : stepCount last ⟨9999, 12, 16, by decide⟩ 7 = 3 := by decide +kernel
  obtain ⟨hruns, -, hdates, -⟩ := nextDaily_closedForm now start hinterval
  obtain ⟨-, -, hdates', -⟩ := nextDaily_closedForm start now hinterval
  obtain ⟨-, -, -, -, hfails, -⟩ := nextDaily_closedForm last ⟨9999, 12, 16, by decide⟩ hinterval
  have hnext : nextDaily now start 7 = .ok ⟨2024, 2, 2, by decide⟩ :=
    (hdates _).2 (by rw [hnine]; decide +kernel)
  exact ⟨hinterval, hnine, hnext, (hruns _).2 hnext.symm, hone,
    (hdates' _).2 (by rw [hone]; decide +kernel), hthree, hfails.2 (by rw [hthree]; decide +kernel)⟩

/-! ## Steps of a year -/

/-- The stepping of a yearly rule comes to an end, which is its outcome. -/
theorem stepsPast_nextYearly (now start : Date) :
    StepsPast (fun d => d.addYears 1) now start (nextYearly now start) := by
  fun_induction nextYearly now start with
  | case1 start cause hstep => exact .fails hstep
  | case2 start next hstep hbefore ih => exact .goesOn hstep hbefore ih
  | case3 start next hstep hafter => exact .arrives hstep (Nat.not_le.1 hafter)

/-- A yearly rule ends on its anniversary in the first year in which this comes after the reference day, or fails
because this is the year after the last one. -/
theorem nextYearly_year_cases (now start : Date) :
    ∃ year, IsLeast {y | start.year < y ∧ now.dayNumber < start.anniversaryNumber y} year
      ∧ ((∃ d, nextYearly now start = .ok d ∧ d.year = year ∧ (d.month, d.day) = start.anniversary)
        ∨ (nextYearly now start = .error (.beyondLastYear 10000) ∧ year = 10000)) := by
  rcases nextYearly_cases now start with ⟨d, hd, hyear, hparts, hafter, hleast⟩ | ⟨herror, hnone⟩
  · have hnumber := (Date.anniversaryNumber_eq_of_parts hparts).symm
    refine ⟨d.year, ⟨⟨hyear, hnumber ▸ hafter⟩, ?_⟩, Or.inl ⟨d, hd, rfl, hparts⟩⟩
    rintro year ⟨hlow, hpassed⟩
    by_contra hearly
    have hpast := hleast year hlow (Nat.not_le.1 hearly)
    omega
  · have hlast := start.year_le
    refine ⟨10000, ⟨⟨by omega, ?_⟩, ?_⟩, Or.inr ⟨herror, rfl⟩⟩
    · exact now.dayNumber_le_lastDayNumber.trans_lt start.lastDayNumber_lt_anniversaryNumber
    · rintro year ⟨hlow, hpassed⟩
      by_contra hearly
      have hpast := hnone year hlow (by omega)
      omega

section Outcomes

variable {now start : Date} {year : Nat}
  (hyear : IsLeast {y | start.year < y ∧ now.dayNumber < start.anniversaryNumber y} year)
include hyear

theorem nextYearly_eq_ok_iff {d : Date} :
    nextYearly now start = .ok d ↔ d.year = year ∧ (d.month, d.day) = start.anniversary := by
  obtain ⟨y, hleast, hend⟩ := nextYearly_year_cases now start
  obtain rfl := hyear.unique hleast
  rcases hend with ⟨e, he, hyearE, hpartsE⟩ | ⟨herror, hbeyond⟩
  · rw [he, Except.ok.injEq, Date.eq_iff_parts, hyearE, hpartsE]
    exact and_congr eq_comm eq_comm
  · have hlast := d.year_le
    rw [herror]
    exact ⟨nofun, fun h => by omega⟩

theorem nextYearly_eq_error_iff :
    nextYearly now start = .error (.beyondLastYear 10000) ↔ year = 10000 := by
  obtain ⟨y, hleast, hend⟩ := nextYearly_year_cases now start
  obtain rfl := hyear.unique hleast
  rcases hend with ⟨e, he, hyearE, -⟩ | ⟨herror, hbeyond⟩
  · have hlast := e.year_le
    rw [he]
    exact ⟨nofun, fun h => by omega⟩
  · exact iff_of_true herror hbeyond

end Outcomes

/-- A move by years at once goes to the anniversary, except that it goes from a 29 February to a 29 February
where the year has one. -/
theorem Date.addYears_sub_eq_ok_iff {start d : Date} (hparts : (d.month, d.day) = start.anniversary) :
    start.addYears ((d.year : Int) - start.year) = .ok d
      ↔ ¬ (start.IsLeapDay ∧ isLeapYear d.year = true) := by
  rw [addYears_eq_ok_iff, hparts, and_iff_right (by omega)]
  unfold anniversary IsLeapDay
  by_cases hleapDay : start.month = 2 ∧ start.day = 29
  · rw [if_pos hleapDay]
    cases hleap : isLeapYear d.year with
    | true => simp [hleapDay]
    | false => simp [hleapDay]
  · simp [hleapDay]

/-- The steps of a yearly rule come to an end, on the anniversary of the present date in the first later year in
which this comes after the reference day; the rule fails exactly if this is the year 10000.  The result is no
29 February, and one move by all the years at once leads there except from one 29 February to the year of another:
so it does from 29 February 2020 with the reference day 1 June 2023. -/
theorem nextYearly_closedForm :
    (∀ now start : Date,
      (∀ result, StepsPast (fun d => d.addYears 1) now start result ↔ result = nextYearly now start)
      ∧ (∃ year, IsLeast {y | start.year < y ∧ now.dayNumber < start.anniversaryNumber y} year
        ∧ year ≤ 10000
        ∧ (∀ d, nextYearly now start = .ok d ↔ d.year = year ∧ (d.month, d.day) = start.anniversary)
        ∧ ((∃ d, nextYearly now start = .ok d) ↔ year ≤ 9999)
        ∧ (nextYearly now start = .error (.beyondLastYear 10000) ↔ year = 10000))
      ∧ ∀ d, nextYearly now start = .ok d →
        ¬ d.IsLeapDay
          ∧ (start.addYears ((d.year : Int) - start.year) = .ok d
            ↔ ¬ (start.IsLeapDay ∧ isLeapYear d.year = true)))
    ∧ ∃ now start d : Date, nextYearly now start = .ok d
      ∧ start.addYears ((d.year : Int) - start.year) ≠ .ok d := by
  refine ⟨fun now start => ?_, ⟨2023, 6, 1, by decide⟩, ⟨2020, 2, 29, by decide⟩,
    ⟨2024, 3, 1, by decide⟩, by decide +kernel, by decide +kernel⟩
  have hrun := stepsPast_nextYearly now start
  obtain ⟨year, hleast, hend⟩ := nextYearly_year_cases now start
  have hdates : ∀ d, nextYearly now start = .ok d ↔ d.year = year ∧ (d.month, d.day) = start.anniversary :=
    fun d => nextYearly_eq_ok_iff hleast
  have hlast : year ≤ 10000 := by
    rcases hend with ⟨d, -, hyear, -⟩ | ⟨-, hyear⟩
    · have hyearLe := d.year_le
      omega
    · exact hyear.le
  refine ⟨fun result => ⟨fun h => h.unique hrun, ?_⟩,
    ⟨year, hleast, hlast, hdates, ?_, nextYearly_eq_error_iff hleast⟩, fun d hd => ?_⟩
  · rintro rfl
    exact hrun
  · constructor
    · rintro ⟨d, hd⟩
      rw [← ((hdates d).1 hd).1]
      exact d.year_le
    · intro hinside
      rcases hend with ⟨d, hd, -⟩ | ⟨-, hyear⟩
      · exact ⟨d, hd⟩
      · omega
  · have hparts := ((hdates d).1 hd).2
    have hnot := start.anniversary_ne_leapDay
    rw [← hparts] at hnot
    exact ⟨hnot, Date.addYears_sub_eq_ok_iff hparts⟩

end Agenda
