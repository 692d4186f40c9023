import Agenda.Calendar.DayNumber
import Mathlib.Order.Bounds.Basic
/-!
# Dates and their day numbers

Day numbers are a faithful picture of the calendar: every number from 1 to `lastDayNumber` is the number
of exactly one date, and dates are ordered by year, then month, then day.

* `daysBeforeYear_succ`, `daysBeforeMonth_succ` — a year and a month begin where the one before ends.
* `Date.lt_iff_parts` — the order of dates, read off their parts.
* `Date.dayNumber_injective` — a number belongs to one date only.
* `Date.ofDayNumber?_eq_some_iff` — the date with a number is found.
* `Date.addDays_eq_ok_iff`, `Date.addDays_eq_error_iff` — moving by days is addition, up to the ends of
  the calendar.
-/

namespace Agenda

/-- The number of days of a year. -/
def yearLength (year : Nat) : Nat :=
  if isLeapYear year then 366 else 365

theorem isLeapYear_iff {year : Nat} :
    isLeapYear year = true ↔ year % 4 = 0 ∧ (year % 100 ≠ 0 ∨ year % 400 = 0) := by
  simp [isLeapYear]

/-- The year after a leap year is a common year. -/
theorem isLeapYear_succ {year : Nat} (hleap : isLeapYear year = true) :
    isLeapYear (year + 1) = false := by
  rw [isLeapYear_iff] at hleap
  rw [Bool.eq_false_iff, ne_eq, isLeapYear_iff]
  omega

/-- A month has between 28 and 31 days. -/
theorem monthLength_bounds (year month : Nat) :
    28 ≤ monthLength year month ∧ monthLength year month ≤ 31 := by
  unfold monthLength
  split
  · split <;> omega
  · omega
  · omega
  · omega
  · omega
  · omega

theorem monthLength_february_le (year : Nat) : monthLength year 2 ≤ 29 := by
  simp only [monthLength]
  split <;> omega

/-- A quotient grows by one exactly at the multiples of the divisor. -/
theorem succ_div_cases (past step : Nat) :
    ((past + 1) % step = 0 ∧ (past + 1) / step = past / step + 1)
      ∨ ((past + 1) % step ≠ 0 ∧ (past + 1) / step = past / step) := by
  by_cases hstep : step ∣ past + 1
  · exact Or.inl ⟨Nat.mod_eq_zero_of_dvd hstep, Nat.succ_div_of_dvd hstep⟩
  · exact Or.inr ⟨fun hzero => hstep (Nat.dvd_of_mod_eq_zero hzero), Nat.succ_div_of_not_dvd hstep⟩

theorem daysBeforeYear_succ {year : Nat} (hyear : 1 ≤ year) :
    daysBeforeYear (year + 1) = daysBeforeYear year + yearLength year := by
  obtain ⟨past, rfl⟩ : ∃ past, year = past + 1 := ⟨year - 1, by omega⟩
  have hfour := succ_div_cases past 4
  have hcentury := succ_div_cases past 100
  have hera := succ_div_cases past 400
  have hnest : (past + 1) % 400 = 0 → (past + 1) % 100 = 0 := by omega
  have hnest' : (past + 1) % 100 = 0 → (past + 1) % 4 = 0 := by omega
  -- The subtraction of the centuries is not cut off at zero.
  have hfits : past / 100 ≤ past := Nat.div_le_self past 100
  unfold daysBeforeYear yearLength
  simp only [Nat.add_sub_cancel]
  by_cases hleap : isLeapYear (past + 1) = true
  · rw [if_pos hleap]
    rw [isLeapYear_iff] at hleap
    generalize past / 4 = a, past / 100 = b, past / 400 = c at *
    omega
  · rw [if_neg hleap]
    rw [isLeapYear_iff] at hleap
    generalize past / 4 = a, past / 100 = b, past / 400 = c at *
    omega

theorem daysBeforeMonth_succ {year month : Nat} (hmonth : 1 ≤ month) :
    daysBeforeMonth year (month + 1) = daysBeforeMonth year month + monthLength year month := by
  obtain ⟨past, rfl⟩ : ∃ past, month = past + 1 := ⟨month - 1, by omega⟩
  simp [daysBeforeMonth, List.range_succ]

/-- The twelve months fill the year. -/
theorem daysBeforeMonth_thirteen (year : Nat) : daysBeforeMonth year 13 = yearLength year := by
  unfold yearLength
  by_cases hleap : isLeapYear year = true
  · simp [daysBeforeMonth, List.range_succ, monthLength, hleap]
  · simp [daysBeforeMonth, List.range_succ, monthLength, hleap]

theorem daysBeforeMonth_add_monthLength_le {year month later : Nat} (hmonth : 1 ≤ month)
    (hlater : month < later) :
    daysBeforeMonth year month + monthLength year month ≤ daysBeforeMonth year later := by
  induction later, hlater using Nat.le_induction with
  | base => exact (daysBeforeMonth_succ hmonth).ge
  | succ later hle ih =>
      have hsucc : daysBeforeMonth year (later + 1)
          = daysBeforeMonth year later + monthLength year later := daysBeforeMonth_succ (by omega)
      omega

theorem daysBeforeYear_add_yearLength_le {year later : Nat} (hyear : 1 ≤ year)
    (hlater : year < later) :
    daysBeforeYear year + yearLength year ≤ daysBeforeYear later := by
  induction later, hlater using Nat.le_induction with
  | base => exact (daysBeforeYear_succ hyear).ge
  | succ later hle ih =>
      have hsucc : daysBeforeYear (later + 1) = daysBeforeYear later + yearLength later :=
        daysBeforeYear_succ (by omega)
      omega

/-- The number of a day given by its parts, in years after the last one of the calendar as well. -/
def dayNumberOf (year month day : Nat) : Nat :=
  daysBeforeYear year + daysBeforeMonth year month + day

theorem dayNumberOf_le_endOfYear {year month day : Nat} (hmonth : 1 ≤ month ∧ month ≤ 12)
    (hday : day ≤ monthLength year month) :
    dayNumberOf year month day ≤ daysBeforeYear year + yearLength year := by
  have hend : daysBeforeMonth year month + monthLength year month ≤ daysBeforeMonth year 13 :=
    daysBeforeMonth_add_monthLength_le hmonth.1 (by omega)
  rw [daysBeforeMonth_thirteen] at hend
  unfold dayNumberOf
  omega

theorem daysBeforeYear_lt_dayNumberOf {year month day : Nat} (hday : 1 ≤ day) :
    daysBeforeYear year < dayNumberOf year month day := by
  unfold dayNumberOf
  omega

theorem dayNumberOf_lt_of_year_lt {year year' month month' day day' : Nat} (hyear : 1 ≤ year)
    (hmonth : 1 ≤ month ∧ month ≤ 12) (hday : day ≤ monthLength year month) (hday' : 1 ≤ day')
    (hlt : year < year') : dayNumberOf year month day < dayNumberOf year' month' day' := by
  have hend := dayNumberOf_le_endOfYear hmonth hday
  have hnext := daysBeforeYear_add_yearLength_le hyear hlt
  have hstart : daysBeforeYear year' < dayNumberOf year' month' day' :=
    daysBeforeYear_lt_dayNumberOf hday'
  omega

/-- The walk over the months keeps the number of the day and ends within a month. -/
theorem walkMonths_spec (year : Nat) :
    ∀ (steps month day : Nat), 1 ≤ month → 1 ≤ day →
      daysBeforeMonth year month + day ≤ daysBeforeMonth year (month + steps + 1) →
      month ≤ (walkMonths year steps month day).1
        ∧ (walkMonths year steps month day).1 ≤ month + steps
        ∧ 1 ≤ (walkMonths year steps month day).2
        ∧ (walkMonths year steps month day).2
            ≤ monthLength year (walkMonths year steps month day).1
        ∧ daysBeforeMonth year (walkMonths year steps month day).1
            + (walkMonths year steps month day).2 = daysBeforeMonth year month + day := by
  intro steps
  induction steps with
  | zero =>
      intro month day hmonth hday hfits
      have hsucc : daysBeforeMonth year (month + 1)
          = daysBeforeMonth year month + monthLength year month := daysBeforeMonth_succ hmonth
      rw [Nat.add_zero] at hfits
      simp only [walkMonths]
      exact ⟨Nat.le_refl month, Nat.le_refl month, hday, by omega, trivial⟩
  | succ steps ih =>
      intro month day hmonth hday hfits
      have hsucc : daysBeforeMonth year (month + 1)
          = daysBeforeMonth year month + monthLength year month := daysBeforeMonth_succ hmonth
      simp only [walkMonths]
      by_cases hend : day ≤ monthLength year month
      · simp only [if_pos hend]
        exact ⟨Nat.le_refl month, by omega, hday, hend, trivial⟩
      · -- The day lies after this month: its days are taken off, and the sum stays the same.
        simp only [if_neg hend]
        have hshift : month + 1 + steps + 1 = month + (steps + 1) + 1 := by omega
        have hrest := ih (month + 1) (day - monthLength year month) (by omega) (by omega)
          (by rw [hshift]; omega)
        omega

/-- The year found for a day number is the year in which the number lies. -/
theorem yearOfDayNumber_spec {n : Nat} (hn : 1 ≤ n) :
    1 ≤ yearOfDayNumber n ∧ daysBeforeYear (yearOfDayNumber n) < n
      ∧ n ≤ daysBeforeYear (yearOfDayNumber n + 1) := by
  -- The guess is the true year or a neighbour of it; the two bounds tell which.
  have hlow : daysBeforeYear ((n - 1) * 400 / 146097 + 1 - 1) < n := by
    unfold daysBeforeYear
    simp only
    omega
  have hhigh : n ≤ daysBeforeYear ((n - 1) * 400 / 146097 + 1 + 1 + 1) := by
    unfold daysBeforeYear
    simp only
    omega
  have hfirst : daysBeforeYear 1 = 0 := by decide
  have hzero : daysBeforeYear 0 = 0 := by decide
  unfold yearOfDayNumber
  simp only
  generalize hguess : (n - 1) * 400 / 146097 + 1 = guess at hlow hhigh ⊢
  split
  · next hbefore =>
      have hpos : guess ≠ 1 := by
        rintro rfl
        omega
      have hback : guess - 1 + 1 = guess := by omega
      rw [hback]
      exact ⟨by omega, hlow, hbefore⟩
  · next hafter =>
      split
      · next hnext => exact ⟨by omega, hnext, hhigh⟩
      · next hwithin => exact ⟨by omega, by omega, by omega⟩

namespace Date

theorem dayNumber_eq (d : Date) : d.dayNumber = dayNumberOf d.year d.month d.day := rfl

theorem one_le_year (d : Date) : 1 ≤ d.year := d.isDate.1.1

theorem year_le (d : Date) : d.year ≤ 9999 := d.isDate.1.2

theorem month_bounds (d : Date) : 1 ≤ d.month ∧ d.month ≤ 12 := d.isDate.2.1

theorem day_bounds (d : Date) : 1 ≤ d.day ∧ d.day ≤ monthLength d.year d.month := d.isDate.2.2

theorem day_le (d : Date) : d.day ≤ 31 :=
  Nat.le_trans d.day_bounds.2 (monthLength_bounds d.year d.month).2

/-- Dates are ordered by the year, within a year by the month, within a month by the day. -/
theorem lt_iff_parts {a b : Date} :
    a < b ↔ a.year < b.year ∨ (a.year = b.year ∧
      (a.month < b.month ∨ (a.month = b.month ∧ a.day < b.day))) := by
  -- The parts decide in one of the two directions, or they are all equal.
  have hforward : ∀ c d : Date, c.year < d.year ∨ (c.year = d.year ∧
      (c.month < d.month ∨ (c.month = d.month ∧ c.day < d.day))) → c.dayNumber < d.dayNumber := by
    intro c d hparts
    rw [dayNumber_eq, dayNumber_eq]
    rcases hparts with hyear | ⟨hyear, hmonth | ⟨hmonth, hday⟩⟩
    · exact dayNumberOf_lt_of_year_lt c.one_le_year c.month_bounds c.day_bounds.2 d.day_bounds.1 hyear
    · have hend : daysBeforeMonth c.year c.month + monthLength c.year c.month
          ≤ daysBeforeMonth c.year d.month :=
        daysBeforeMonth_add_monthLength_le c.month_bounds.1 hmonth
      have hdayc := c.day_bounds.2
      have hdayd := d.day_bounds.1
      unfold dayNumberOf
      rw [← hyear]
      omega
    · unfold dayNumberOf
      rw [← hyear, ← hmonth]
      omega
  constructor
  · intro hlt
    rw [lt_iff] at hlt
    by_contra hnot
    -- Otherwise the parts of the two dates are the other way round, or equal.
    by_cases hback : b.year < a.year ∨ (b.year = a.year ∧
        (b.month < a.month ∨ (b.month = a.month ∧ b.day < a.day)))
    · have hgt := hforward b a hback
      omega
    · have hsame : a = b := Date.ext (by omega) (by omega) (by omega)
      rw [hsame] at hlt
      omega
  · exact hforward a b

theorem dayNumber_injective {a b : Date} (hnumber : a.dayNumber = b.dayNumber) : a = b := by
  have hnot : ¬ a < b := by
    rw [lt_iff]
    omega
  have hnot' : ¬ b < a := by
    rw [lt_iff]
    omega
  rw [lt_iff_parts] at hnot hnot'
  exact Date.ext (by omega) (by omega) (by omega)

theorem lt_of_year_lt {a b : Date} (hyear : a.year < b.year) : a < b :=
  lt_iff_parts.2 (Or.inl hyear)

theorem year_le_of_lt {a b : Date} (hlt : a < b) : a.year ≤ b.year := by
  rw [lt_iff_parts] at hlt
  omega

theorem year_le_of_le {a b : Date} (hle : a ≤ b) : a.year ≤ b.year := by
  by_contra hyear
  have hlt : b < a := lt_of_year_lt (by omega)
  rw [lt_iff] at hlt
  rw [le_iff] at hle
  omega

theorem one_le_dayNumber (d : Date) : 1 ≤ d.dayNumber := by
  have hday := d.day_bounds.1
  rw [dayNumber_eq, dayNumberOf]
  omega

/-- The calendar ends on 31 December of its last year. -/
theorem dayNumber_le_lastDayNumber (d : Date) : d.dayNumber ≤ lastDayNumber := by
  have hend := dayNumberOf_le_endOfYear d.month_bounds d.day_bounds.2
  have hyear : daysBeforeYear d.year + yearLength d.year ≤ daysBeforeYear 10000 :=
    daysBeforeYear_add_yearLength_le d.one_le_year (by have := d.year_le; omega)
  have hlast : daysBeforeYear 10000 = lastDayNumber := by decide
  rw [dayNumber_eq]
  omega

theorem exists_ofDayNumber? {n : Nat} (hpos : 1 ≤ n) (hlast : n ≤ lastDayNumber) :
    ∃ d : Date, ofDayNumber? n = some d ∧ d.dayNumber = n := by
  obtain ⟨hyear, hbegin, hend⟩ := yearOfDayNumber_spec hpos
  have hyearLast : yearOfDayNumber n ≤ 9999 := by
    by_contra hover
    have hbeyond : daysBeforeYear 9999 + yearLength 9999 ≤ daysBeforeYear (yearOfDayNumber n) :=
      daysBeforeYear_add_yearLength_le (by omega) (by omega)
    have hnumber : daysBeforeYear 9999 + yearLength 9999 = lastDayNumber := by decide
    omega
  rw [daysBeforeYear_succ hyear, ← daysBeforeMonth_thirteen] at hend
  have hjanuary : daysBeforeMonth (yearOfDayNumber n) 1 = 0 := rfl
  -- The walk starts in January with the day of the year, which is a day of some month.
  obtain ⟨hmonth, hmonthLast, hday, hdayLast, hsum⟩ :=
    walkMonths_spec (yearOfDayNumber n) 11 1 (n - daysBeforeYear (yearOfDayNumber n))
      (by omega) (by omega) (by
        show _ ≤ daysBeforeMonth (yearOfDayNumber n) 13
        omega)
  have hdate : IsDate (yearOfDayNumber n)
      (walkMonths (yearOfDayNumber n) 11 1 (n - daysBeforeYear (yearOfDayNumber n))).1
      (walkMonths (yearOfDayNumber n) 11 1 (n - daysBeforeYear (yearOfDayNumber n))).2 :=
    ⟨⟨hyear, hyearLast⟩, ⟨hmonth, hmonthLast⟩, hday, hdayLast⟩
  refine ⟨⟨_, _, _, hdate⟩, ?_, ?_⟩
  · unfold ofDayNumber?
    rw [if_pos ⟨hpos, hlast⟩]
    exact ofParts?_eq_some_iff.2 ⟨rfl, rfl, rfl⟩
  · rw [dayNumber_eq]
    unfold dayNumberOf
    simp only
    omega

theorem ofDayNumber?_eq_some_iff {n : Nat} {d : Date} :
    ofDayNumber? n = some d ↔ d.dayNumber = n := by
  constructor
  · intro hsome
    by_cases hrange : 1 ≤ n ∧ n ≤ lastDayNumber
    · obtain ⟨e, he, hnumber⟩ := exists_ofDayNumber? hrange.1 hrange.2
      rw [he] at hsome
      obtain rfl := Option.some.inj hsome
      exact hnumber
    · unfold ofDayNumber? at hsome
      rw [if_neg hrange] at hsome
      cases hsome
  · rintro rfl
    obtain ⟨e, he, hnumber⟩ :=
      exists_ofDayNumber? d.one_le_dayNumber d.dayNumber_le_lastDayNumber
    rw [he, dayNumber_injective hnumber]

/-- Every number of the calendar is the number of a date. -/
theorem exists_dayNumber_eq {n : Nat} (hpos : 1 ≤ n) (hlast : n ≤ lastDayNumber) :
    ∃ d : Date, d.dayNumber = n := by
  obtain ⟨d, -, hnumber⟩ := exists_ofDayNumber? hpos hlast
  exact ⟨d, hnumber⟩

theorem addDays_eq_ok_iff {d e : Date} {days : Int} :
    d.addDays days = .ok e ↔ (e.dayNumber : Int) = d.dayNumber + days := by
  have hpos := e.one_le_dayNumber
  unfold addDays
  simp only
  split
  · next hearly =>
      constructor
      · intro h
        cases h
      · intro h
        omega
  · next hwithin =>
      constructor
      · intro h
        split at h
        · next f hf =>
            obtain rfl := Except.ok.inj h
            have hnumber := ofDayNumber?_eq_some_iff.1 hf
            omega
        · cases h
      · intro h
        have hfound : ofDayNumber? ((d.dayNumber : Int) + days).toNat = some e :=
          ofDayNumber?_eq_some_iff.2 (by omega)
        rw [hfound]

/-- Moving by days has one way to fail. -/
theorem cause_of_addDays {d : Date} {days : Int} {cause : CalendarError}
    (h : d.addDays days = .error cause) : cause = .beyondLastDay := by
  unfold addDays at h
  simp only at h
  split at h
  · exact (Except.error.inj h).symm
  · split at h
    · cases h
    · exact (Except.error.inj h).symm

/-- Moving by days fails exactly when it leads out of the calendar. -/
theorem addDays_eq_error_iff {d : Date} {days : Int} :
    d.addDays days = .error .beyondLastDay
      ↔ (d.dayNumber : Int) + days < 1 ∨ (lastDayNumber : Int) < d.dayNumber + days := by
  cases hmove : d.addDays days with
  | ok e =>
      have hnumber := addDays_eq_ok_iff.1 hmove
      have hpos := e.one_le_dayNumber
      have hlast := e.dayNumber_le_lastDayNumber
      constructor
      · intro h
        cases h
      · intro hout
        omega
  | error cause =>
      obtain rfl := cause_of_addDays hmove
      refine ⟨fun _ => ?_, fun _ => rfl⟩
      by_contra hinside
      obtain ⟨e, he⟩ := exists_dayNumber_eq (n := ((d.dayNumber : Int) + days).toNat)
        (by omega) (by omega)
      have hok : d.addDays days = .ok e := addDays_eq_ok_iff.2 (by omega)
      rw [hok] at hmove
      cases hmove

end Date

end Agenda
