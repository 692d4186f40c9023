import Agenda.Proofs.Calendar.SignedDays
import Agenda.Proofs.Recurrence.Due
/-!
# Weekly and monthly rules

Both are followed by a search from the later of the reference day and the present date: a weekly rule
through the weekdays of its list, a monthly rule through the days of its months, first in the year of the
base date and then in the year after it.

* `daysToListed_spec` — the nearest listed weekday is at most seven days away.
* `nextWeekly_cases` — the outcomes of a weekly rule.
* `listedDays_spec` — the days of a month that a monthly rule is about.
* `inYear_singleton_iff`, `firstInYear_cases` — the search through one month and through one year.
* `firstInYear_thisYear_cases`, `firstInYear_nextYear_cases` — the two years that are searched.
* `nextMonthly_cases` — the outcomes of a monthly rule.
-/

namespace Agenda

/-! ## Weekly rules -/

/-- The nearest listed weekday is between one and seven days away, and no listed weekday is nearer. -/
theorem daysToListed_spec {current : Int} (hcurrent : IsWeekday current) {weekdays : List Int}
    (hweekdays : AscendingOf IsWeekday weekdays) :
    ∃ k : Int, daysToListed current weekdays = some k ∧ 1 ≤ k ∧ k ≤ 7
      ∧ (current - 1 + k) % 7 + 1 ∈ weekdays
      ∧ ∀ j, 1 ≤ j → j < k → (current - 1 + j) % 7 + 1 ∉ weekdays := by
  obtain ⟨hne, hsorted, hrange⟩ := hweekdays
  obtain ⟨hlow, hhigh⟩ := hcurrent
  unfold daysToListed
  cases hfind : weekdays.find? fun w => current < w with
  | some w =>
      obtain ⟨hmem, hw, hleast⟩ := find?_isLeast hsorted hfind
      have hlater : current < w := by simpa using hw
      obtain ⟨hwlow, hwhigh⟩ := hrange w hmem
      refine ⟨w - current, rfl, by omega, by omega, ?_, ?_⟩
      · have hday : (current - 1 + (w - current)) % 7 + 1 = w := by omega
        rw [hday]
        exact hmem
      · intro j hj hless hin
        have hday : (current - 1 + j) % 7 + 1 = current + j := by omega
        rw [hday] at hin
        have hle := hleast (current + j) hin (decide_eq_true (by omega))
        omega
  | none =>
      -- All listed weekdays are past in this week, so the least of them is next in the week after.
      have hpast : ∀ w ∈ weekdays, w ≤ current := by
        intro w hw
        have hnot := List.find?_eq_none.1 hfind w hw
        simpa using hnot
      obtain ⟨w, rest, rfl⟩ := List.exists_cons_of_ne_nil hne
      have hfirst : ∀ w' ∈ w :: rest, w ≤ w' := by
        intro w' hw'
        rcases List.mem_cons.1 hw' with rfl | hin
        · exact le_refl _
        · exact ((List.pairwise_cons.1 hsorted).1 w' hin).le
      obtain ⟨hwlow, hwhigh⟩ := hrange w (by simp)
      have hwpast := hpast w (by simp)
      refine ⟨7 - current + w, rfl, by omega, by omega, ?_, ?_⟩
      · have hday : (current - 1 + (7 - current + w)) % 7 + 1 = w := by omega
        rw [hday]
        simp
      · intro j hj hless hin
        by_cases hweek : current + j ≤ 7
        · have hday : (current - 1 + j) % 7 + 1 = current + j := by omega
          rw [hday] at hin
          have hle := hpast _ hin
          omega
        · have hday : (current - 1 + j) % 7 + 1 = current + j - 7 := by omega
          rw [hday] at hin
          have hle := hfirst _ hin
          omega

theorem Date.isWeekday_weekday (d : Date) : IsWeekday d.weekday := by
  unfold IsWeekday Date.weekday
  omega

/-- The days that a weekly rule looks at, counted from a base date. -/
theorem weekdayOf_add (base : Date) (j : Nat) :
    (weekdayOf (base.dayNumber + j) : Int) = ((base.weekday : Int) - 1 + j) % 7 + 1 := by
  unfold weekdayOf Date.weekday
  omega

/-- The first listed day after the base date of a weekly rule is found by `daysToListed`. -/
theorem exists_weeklyStep (now start : Date) {weekdays : List Int}
    (hweekdays : AscendingOf IsWeekday weekdays) :
    ∃ k : Nat, daysToListed (Date.later now start).weekday weekdays = some (k : Int)
      ∧ IsLeast {m | (Rule.weekly weekdays).DueOn start m ∧ now.dayNumber < m}
          ((Date.later now start).dayNumber + k) := by
  obtain ⟨k, hk, hlow, hhigh, hlisted, hleast⟩ :=
    daysToListed_spec (Date.later now start).isWeekday_weekday hweekdays
  obtain ⟨k, rfl⟩ := Int.eq_ofNat_of_zero_le (show 0 ≤ k by omega)
  have hafter : (Date.later now start).dayNumber < (Date.later now start).dayNumber + k
      ↔ now.dayNumber < (Date.later now start).dayNumber + k
        ∧ start.dayNumber < (Date.later now start).dayNumber + k := Date.dayNumber_later_lt_iff
  refine ⟨k, hk, ⟨⟨⟨?_, ?_⟩, ?_⟩, ?_⟩⟩
  · exact (hafter.1 (by omega)).2
  · rw [weekdayOf_add]
    exact hlisted
  · exact (hafter.1 (by omega)).1
  · rintro m ⟨⟨hstart, hm⟩, hnow⟩
    have hbase := Date.dayNumber_later_lt_iff.2 ⟨hnow, hstart⟩
    obtain ⟨j, rfl⟩ : ∃ j, m = (Date.later now start).dayNumber + j :=
      ⟨m - (Date.later now start).dayNumber, by omega⟩
    rw [weekdayOf_add] at hm
    by_contra hless
    exact hleast j (by omega) (by omega) hm

/-- A weekly rule ends at the first due day, or fails because this day lies beyond the calendar. -/
theorem nextWeekly_cases (now start : Date) {weekdays : List Int}
    (hweekdays : AscendingOf IsWeekday weekdays) :
    (∃ d, nextWeekly now start weekdays = .ok d ∧ (Rule.weekly weekdays).FirstDue now start d)
      ∨ (nextWeekly now start weekdays = .error (.calendar .beyondLastDay)
        ∧ (Rule.weekly weekdays).LeavesCalendar now start) := by
  obtain ⟨k, hk, hleast⟩ := exists_weeklyStep now start hweekdays
  unfold nextWeekly
  simp only [hk]
  rcases Rule.firstDue_of_addDays_cases (Date.later now start) k hleast (fun _ => trivial) (by omega) with
    ⟨d, hd, hdue⟩ | ⟨herror, hbeyond⟩
  · rw [hd]
    exact Or.inl ⟨d, rfl, hdue⟩
  · rw [herror]
    exact Or.inr ⟨rfl, _, hleast, hbeyond⟩

/-! ## Monthly rules -/

/-- Of the days that a list stands for in a month, a monthly rule keeps those that the month has. -/
theorem listedDays_of_resolveDays {year month : Nat} (hyear : 1 ≤ year ∧ year ≤ 9999)
    (hmonth : 1 ≤ month ∧ month ≤ 12) {days resolved : List Int}
    (hresolved : resolveDays days year month = .ok resolved) :
    listedDays days year month = .ok (resolved.filter fun day => day ≤ (monthLength year month : Int)) := by
  unfold listedDays
  rw [lastDayOfMonth_eq hyear hmonth, hresolved]
  rfl

/-- A monthly rule is about the days of a month that are listed, and about its last day or the day before
it when these are. -/
theorem listedDays_spec {year month : Nat} (hyear : 1 ≤ year ∧ year ≤ 9999)
    (hmonth : 1 ≤ month ∧ month ≤ 12) {days : List Int} (hdays : ∀ day ∈ days, IsMonthDay day) :
    ∃ listed, listedDays days year month = .ok listed ∧ listed.Pairwise (· < ·)
      ∧ ∀ x : Int, x ∈ listed ↔ (1 ≤ x ∧ x ≤ monthLength year month)
          ∧ (x ∈ days ∨ (-1 ∈ days ∧ x = monthLength year month)
            ∨ (-2 ∈ days ∧ x + 1 = monthLength year month)) := by
  have hlength := (monthLength_bounds year month).1
  have hshort : ∀ day ∈ days, -(monthLength year month : Int) ≤ day := by
    intro day hday
    have hrange := hdays day hday
    unfold IsMonthDay at hrange
    omega
  obtain ⟨resolved, hresolved, hsorted, hmem⟩ := resolveDays_spec hyear hmonth hshort
  refine ⟨_, listedDays_of_resolveDays hyear hmonth hresolved, hsorted.filter _, ?_⟩
  · intro x
    rw [List.mem_filter, hmem, decide_eq_true_eq]
    constructor
    · rintro ⟨⟨hx, hin⟩ | ⟨day, hday, hnegative, rfl⟩, hlast⟩
      · have hrange := hdays x hin
        unfold IsMonthDay at hrange
        exact ⟨⟨by omega, hlast⟩, Or.inl hin⟩
      · have hrange := hdays day hday
        unfold IsMonthDay at hrange
        rcases hrange with hpositive | rfl | rfl
        · omega
        · exact ⟨⟨by omega, hlast⟩, Or.inr (Or.inl ⟨hday, by omega⟩)⟩
        · exact ⟨⟨by omega, hlast⟩, Or.inr (Or.inr ⟨hday, by omega⟩)⟩
    · rintro ⟨⟨hx, hlast⟩, hin | ⟨hin, hend⟩ | ⟨hin, hend⟩⟩
      · exact ⟨Or.inl ⟨by omega, hin⟩, hlast⟩
      · exact ⟨Or.inr ⟨-1, hin, by omega, by omega⟩, hlast⟩
      · exact ⟨Or.inr ⟨-2, hin, by omega, by omega⟩, hlast⟩

/-- The dates of a year that a search through it may end at: listed ones that it does not leave out. -/
structure InYear (days : List Int) (year : Nat) (skipMonth : Int → Bool) (skip : Int → Int → Bool)
    (months : List Int) (d : Date) : Prop where
  year_eq : d.year = year
  listed : MonthDayListed days months d
  month_kept : skipMonth d.month = false
  day_kept : skip d.month d.day = false

section Year

variable {days : List Int} {year : Nat} {skipMonth : Int → Bool} {skip : Int → Int → Bool}

/-- Whether a date is searched does not depend on months that are not its own. -/
theorem inYear_cons_iff {month : Int} {rest : List Int} {d : Date} :
    InYear days year skipMonth skip (month :: rest) d
      ↔ (d.month = month ∧ InYear days year skipMonth skip [month] d)
        ∨ InYear days year skipMonth skip rest d := by
  constructor
  · rintro ⟨hyear, ⟨hmonth, hday⟩, hmonthKept, hdayKept⟩
    rcases List.mem_cons.1 hmonth with heq | hin
    · exact Or.inl ⟨heq, hyear, ⟨List.mem_singleton.2 heq, hday⟩, hmonthKept, hdayKept⟩
    · exact Or.inr ⟨hyear, ⟨hin, hday⟩, hmonthKept, hdayKept⟩
  · rintro (⟨heq, hyear, ⟨-, hday⟩, hmonthKept, hdayKept⟩ | ⟨hyear, ⟨hin, hday⟩, hmonthKept, hdayKept⟩)
    · exact ⟨hyear, ⟨List.mem_cons.2 (Or.inl heq), hday⟩, hmonthKept, hdayKept⟩
    · exact ⟨hyear, ⟨List.mem_cons.2 (Or.inr hin), hday⟩, hmonthKept, hdayKept⟩

/-- A month without searched dates leaves those of the months after it. -/
theorem inYear_cons_iff_of_empty {month : Int} {rest : List Int} {d : Date}
    (hempty : ∀ e, ¬ InYear days year skipMonth skip [month] e) :
    InYear days year skipMonth skip (month :: rest) d ↔ InYear days year skipMonth skip rest d := by
  rw [inYear_cons_iff]
  constructor
  · rintro (⟨-, hd⟩ | hd)
    · exact absurd hd (hempty d)
    · exact hd
  · exact Or.inr

theorem not_inYear_of_skipped {month : Int} (hskip : skipMonth month = true) (d : Date) :
    ¬ InYear days year skipMonth skip [month] d := by
  intro hd
  have hmonth := List.mem_singleton.1 hd.listed.1
  have hkept := hd.month_kept
  rw [hmonth, hskip] at hkept
  cases hkept

/-- The dates of a month come before those of the months that are listed after it. -/
theorem lt_of_inYear_rest {month : Int} {rest : List Int} {d e : Date}
    (hfirst : ∀ m ∈ rest, month < m) (hd : InYear days year skipMonth skip [month] d)
    (he : InYear days year skipMonth skip rest e) : d < e := by
  have hmonth := List.mem_singleton.1 hd.listed.1
  have hafter := hfirst e.month he.listed.1
  rw [Date.lt_iff_parts, hd.year_eq, he.year_eq]
  omega

/-- A month that is not skipped settles the search when one of its days is kept. -/
theorem firstInYear_of_kept {month day : Int} {rest listed : List Int}
    (hkept : skipMonth month = false) (hlisted : listedDays days year month = .ok listed)
    (hfind : (listed.find? fun day => !skip month day) = some day) :
    firstInYear days year skipMonth skip (month :: rest)
      = (Date.ofFields year month day).map some := by
  rw [firstInYear, if_neg (by simp [hkept]), hlisted]
  simp only [bind, Except.bind, hfind]

/-- A month none of whose days is kept leaves the search to the months after it. -/
theorem firstInYear_of_noneKept {month : Int} {rest listed : List Int}
    (hkept : skipMonth month = false) (hlisted : listedDays days year month = .ok listed)
    (hfind : (listed.find? fun day => !skip month day) = none) :
    firstInYear days year skipMonth skip (month :: rest)
      = firstInYear days year skipMonth skip rest := by
  rw [firstInYear, if_neg (by simp [hkept]), hlisted]
  simp only [bind, Except.bind, hfind]

variable (skipMonth skip)

/-- The dates that are searched in one month: its listed days, without those that are left out. -/
theorem inYear_singleton_iff (hyear : 1 ≤ year ∧ year ≤ 9999) (hdays : ∀ day ∈ days, IsMonthDay day)
    {month : Nat} (hmonth : 1 ≤ month ∧ month ≤ 12) (hkept : skipMonth month = false) {listed : List Int}
    (hlisted : listedDays days year month = .ok listed) {d : Date} :
    InYear days year skipMonth skip [(month : Int)] d
      ↔ d.year = year ∧ d.month = month ∧ (d.day : Int) ∈ listed ∧ skip month d.day = false := by
  obtain ⟨listed', hlisted', -, hmem⟩ := listedDays_spec hyear hmonth hdays
  rw [hlisted] at hlisted'
  obtain rfl := Except.ok.inj hlisted'
  rw [hmem]
  constructor
  · rintro ⟨hyearD, ⟨hmonthD, hday⟩, -, hdayKept⟩
    have heq : d.month = month := by
      have hcast := List.mem_singleton.1 hmonthD
      omega
    have hbounds := d.day_bounds
    rw [heq] at hdayKept
    rw [hyearD, heq] at hbounds hday
    exact ⟨hyearD, heq, ⟨⟨by omega, by omega⟩, by exact_mod_cast hday⟩, hdayKept⟩
  · rintro ⟨rfl, rfl, ⟨-, hday⟩, hdayKept⟩
    exact ⟨rfl, ⟨List.mem_singleton.2 rfl, by exact_mod_cast hday⟩, hkept, hdayKept⟩

/-- The search through one month that is not skipped. -/
theorem find?_listedDays_cases (hyear : 1 ≤ year ∧ year ≤ 9999)
    (hdays : ∀ day ∈ days, IsMonthDay day) {month : Nat} (hmonth : 1 ≤ month ∧ month ≤ 12)
    (hkept : skipMonth month = false) :
    ∃ listed, listedDays days year month = .ok listed
      ∧ ((∃ d : Date, listed.find? (fun day => !skip month day) = some (d.day : Int)
            ∧ InYear days year skipMonth skip [(month : Int)] d
            ∧ ∀ e, InYear days year skipMonth skip [(month : Int)] e → d ≤ e)
        ∨ (listed.find? (fun day => !skip month day) = none
            ∧ ∀ e, ¬ InYear days year skipMonth skip [(month : Int)] e)) := by
  obtain ⟨listed, hlisted, hsorted, hmem⟩ := listedDays_spec hyear hmonth hdays
  refine ⟨listed, hlisted, ?_⟩
  simp only [inYear_singleton_iff skipMonth skip hyear hdays hmonth hkept hlisted]
  cases hfind : listed.find? fun day => !skip month day with
  | some day =>
      obtain ⟨hin, hnotSkipped, hleast⟩ := find?_isLeast hsorted hfind
      obtain ⟨⟨hlow, hhigh⟩, -⟩ := (hmem day).1 hin
      obtain ⟨day, rfl⟩ := Int.eq_ofNat_of_zero_le (show 0 ≤ day by omega)
      have hdate : IsDate year month day := ⟨hyear, hmonth, by omega, by omega⟩
      refine Or.inl ⟨⟨year, month, day, hdate⟩, rfl, ⟨rfl, rfl, hin, by simpa using hnotSkipped⟩, ?_⟩
      rintro e ⟨hyearE, hmonthE, hinE, hkeptE⟩
      have hle := hleast e.day hinE (by simpa using hkeptE)
      apply Nat.not_lt.1
      rw [← Date.lt_iff, Date.lt_iff_parts, hyearE, hmonthE]
      simp only
      omega
  | none =>
      refine Or.inr ⟨rfl, ?_⟩
      rintro e ⟨-, -, hinE, hkeptE⟩
      have hskipped := List.find?_eq_none.1 hfind e.day hinE
      simp [hkeptE] at hskipped

/-- The search through a year ends at the first date that it may end at, if there is one. -/
theorem firstInYear_cases (hyear : 1 ≤ year ∧ year ≤ 9999)
    (hdays : ∀ day ∈ days, IsMonthDay day) {months : List Int} (hsorted : months.Pairwise (· < ·))
    (hmonths : ∀ month ∈ months, IsMonth month) :
    (∃ d, firstInYear days year skipMonth skip months = .ok (some d)
        ∧ InYear days year skipMonth skip months d
        ∧ ∀ e, InYear days year skipMonth skip months e → d ≤ e)
      ∨ (firstInYear days year skipMonth skip months = .ok none
        ∧ ∀ e, ¬ InYear days year skipMonth skip months e) := by
  induction months with
  | nil =>
      refine Or.inr ⟨rfl, ?_⟩
      rintro e ⟨-, ⟨hmonth, -⟩, -, -⟩
      cases hmonth
  | cons month rest ih =>
      obtain ⟨hfirst, hrest⟩ := List.pairwise_cons.1 hsorted
      obtain ⟨hlow, hhigh⟩ := hmonths month (by simp)
      obtain ⟨month, rfl⟩ := Int.eq_ofNat_of_zero_le (show 0 ≤ month by omega)
      have hih := ih hrest fun m hm => hmonths m (by simp [hm])
      by_cases hskip : skipMonth month = true
      · rw [firstInYear, if_pos hskip]
        simp only [inYear_cons_iff_of_empty (not_inYear_of_skipped hskip)]
        exact hih
      · have hkept : skipMonth month = false := Bool.eq_false_of_not_eq_true hskip
        obtain ⟨listed, hlisted, hcases⟩ :=
          find?_listedDays_cases skipMonth skip hyear hdays ⟨by omega, by omega⟩ hkept
        rcases hcases with ⟨d, hfind, hd, hleast⟩ | ⟨hfind, hnone⟩
        · -- The first day of this month that is kept comes before all dates of later months.
          have hmonth := List.mem_singleton.1 hd.listed.1
          have hbuilt : Date.ofFields year month d.day = .ok d := by
            rw [Date.ofFields_eq_ok_iff]
            exact ⟨by rw [hd.year_eq], hmonth, rfl⟩
          refine Or.inl ⟨d, ?_, inYear_cons_iff.2 (Or.inl ⟨hmonth, hd⟩), ?_⟩
          · rw [firstInYear_of_kept hkept hlisted hfind, hbuilt]
            rfl
          · intro e he
            rcases inYear_cons_iff.1 he with ⟨-, hsame⟩ | hlater
            · exact hleast e hsame
            · exact Nat.le_of_lt (lt_of_inYear_rest hfirst hd hlater)
        · rw [firstInYear_of_noneKept hkept hlisted hfind]
          simp only [inYear_cons_iff_of_empty hnone]
          exact hih

end Year

/-- The year after the last one cannot be searched. -/
theorem firstInYear_after_lastYear {days : List Int} {skip : Int → Int → Bool} {month : Int}
    {rest : List Int} (hmonth : IsMonth month) :
    firstInYear days 10000 (fun _ => false) skip (month :: rest) = .error (.noSuchYear 10000) := by
  unfold firstInYear listedDays lastDayOfMonth monthEnd
  rw [if_neg (by simp), Date.ofFields_after_lastYear hmonth]
  rfl

/-- In the year of the base date exactly the listed dates after the base date are searched. -/
theorem inYear_rest_iff {days months : List Int} {base d : Date} :
    InYear days base.year (fun month => month < base.month)
        (fun month day => month == base.month && day ≤ base.day) months d
      ↔ d.year = base.year ∧ base < d ∧ MonthDayListed days months d := by
  rw [Date.lt_iff_parts]
  constructor
  · rintro ⟨hyear, hlisted, hmonth, hday⟩
    simp only [decide_eq_false_iff_not, Bool.and_eq_false_iff, beq_eq_false_iff_ne, ne_eq] at hmonth hday
    exact ⟨hyear, Or.inr ⟨hyear.symm, by omega⟩, hlisted⟩
  · rintro ⟨hyear, hafter, hlisted⟩
    refine ⟨hyear, hlisted, ?_, ?_⟩
    · simp only [decide_eq_false_iff_not]
      omega
    · simp only [decide_eq_false_iff_not, Bool.and_eq_false_iff, beq_eq_false_iff_ne, ne_eq]
      omega

theorem inYear_whole_iff {days months : List Int} {year : Nat} {d : Date} :
    InYear days year (fun _ => false) (fun _ _ => false) months d
      ↔ d.year = year ∧ MonthDayListed days months d :=
  ⟨fun h => ⟨h.year_eq, h.listed⟩, fun ⟨hyear, hlisted⟩ => ⟨hyear, hlisted, rfl, rfl⟩⟩

/-- The first listed date after the base date is the first due date, if the search gets that far. -/
theorem firstDue_monthly {days months : List Int} {now start d : Date}
    (hafter : Date.later now start < d) (hlisted : MonthDayListed days months d)
    (hsearched : d.year ≤ (Date.later now start).year + 1)
    (hleast : ∀ e, Date.later now start < e → MonthDayListed days months e → d ≤ e) :
    (Rule.monthly days months).FirstDue now start d := by
  obtain ⟨hdue, hnow⟩ := Rule.dueOn_monthly_iff.2 ⟨hafter, hlisted⟩
  refine ⟨hdue, hnow, ?_, hsearched⟩
  intro n hn hless
  obtain ⟨e, rfl, hstart, hlistedE⟩ := hn
  exact hleast e (Date.later_lt_iff.2 ⟨hless, hstart⟩) hlistedE

section Window

variable {days months : List Int} (hdays : AscendingOf IsMonthDay days)
  (hmonths : AscendingOf IsMonth months)
include hdays hmonths

/-- The search through the rest of the year of the base date. -/
theorem firstInYear_thisYear_cases (base : Date) :
    (∃ d, firstInYear days base.year (fun month => month < base.month)
          (fun month day => month == base.month && day ≤ base.day) months = .ok (some d)
        ∧ base < d ∧ d.year = base.year ∧ MonthDayListed days months d
        ∧ ∀ e, base < e → MonthDayListed days months e → d ≤ e)
      ∨ (firstInYear days base.year (fun month => month < base.month)
          (fun month day => month == base.month && day ≤ base.day) months = .ok none
        ∧ ∀ e, base < e → MonthDayListed days months e → base.year < e.year) := by
  rcases firstInYear_cases (fun month => month < base.month)
      (fun month day => month == base.month && day ≤ base.day)
      ⟨base.one_le_year, base.year_le⟩ hdays.2.2 hmonths.2.1 hmonths.2.2 with
    ⟨d, hd, hin, hleast⟩ | ⟨hnone, hempty⟩
  · obtain ⟨hyear, hafter, hlisted⟩ := inYear_rest_iff.1 hin
    refine Or.inl ⟨d, hd, hafter, hyear, hlisted, ?_⟩
    intro e he hlistedE
    by_cases hsame : e.year = base.year
    · exact hleast e (inYear_rest_iff.2 ⟨hsame, he, hlistedE⟩)
    · have hyearE := Date.year_le_of_lt he
      exact Nat.le_of_lt (Date.lt_of_year_lt (show d.year < e.year by omega))
  · refine Or.inr ⟨hnone, ?_⟩
    intro e he hlistedE
    have hyearE := Date.year_le_of_lt he
    by_contra hsame
    exact hempty e (inYear_rest_iff.2 ⟨by omega, he, hlistedE⟩)

/-- The search through the year after a base date whose own year has no listed date left. -/
theorem firstInYear_nextYear_cases {base : Date}
    (hrest : ∀ e, base < e → MonthDayListed days months e → base.year < e.year) :
    (∃ d, firstInYear days (base.year + 1) (fun _ => false) (fun _ _ => false) months = .ok (some d)
        ∧ base < d ∧ d.year = base.year + 1 ∧ MonthDayListed days months d
        ∧ ∀ e, base < e → MonthDayListed days months e → d ≤ e)
      ∨ (firstInYear days (base.year + 1) (fun _ => false) (fun _ _ => false) months = .ok none
        ∧ base.year ≤ 9998
        ∧ ∀ e, base < e → e.year = base.year ∨ e.year = base.year + 1 →
          ¬ MonthDayListed days months e)
      ∨ (firstInYear days (base.year + 1) (fun _ => false) (fun _ _ => false) months
          = .error (.noSuchYear 10000)
        ∧ base.year = 9999) := by
  by_cases hend : base.year = 9999
  · -- There is no next year to go through.
    obtain ⟨month, rest, rfl⟩ := List.exists_cons_of_ne_nil hmonths.1
    refine Or.inr (Or.inr ⟨?_, hend⟩)
    rw [hend]
    exact firstInYear_after_lastYear (hmonths.2.2 month (by simp))
  · have hlast := base.year_le
    have hcases := firstInYear_cases (fun _ => false) (fun _ _ => false)
      (show 1 ≤ base.year + 1 ∧ base.year + 1 ≤ 9999 by omega) hdays.2.2 hmonths.2.1 hmonths.2.2
    push_cast at hcases
    rcases hcases with ⟨d, hd, hin, hleast⟩ | ⟨hnone, hempty⟩
    · obtain ⟨hyear, hlisted⟩ := inYear_whole_iff.1 hin
      refine Or.inl ⟨d, hd, Date.lt_of_year_lt (by omega), hyear, hlisted, ?_⟩
      intro e he hlistedE
      have hyearE := hrest e he hlistedE
      by_cases hsame : e.year = base.year + 1
      · exact hleast e (inYear_whole_iff.2 ⟨hsame, hlistedE⟩)
      · exact Nat.le_of_lt (Date.lt_of_year_lt (show d.year < e.year by omega))
    · refine Or.inr (Or.inl ⟨hnone, by omega, ?_⟩)
      intro e he hyears hlistedE
      have hyearE := hrest e he hlistedE
      exact hempty e (inYear_whole_iff.2 ⟨by omega, hlistedE⟩)

/-- A monthly rule ends at the first due day of the two years that are searched, or fails because there
is none, or because the second of these years lies beyond the calendar. -/
theorem nextMonthly_cases (now start : Date) :
    (∃ d, nextMonthly now start days months = .ok d
        ∧ (Rule.monthly days months).FirstDue now start d)
      ∨ (nextMonthly now start days months = .error (.calendar (.noSuchYear 10000))
        ∧ (Rule.monthly days months).LeavesCalendar now start)
      ∨ (nextMonthly now start days months = .error (.noMatchingDay months)
        ∧ (Rule.monthly days months).Starved (Date.later now start)) := by
  unfold nextMonthly
  rcases firstInYear_thisYear_cases hdays hmonths (Date.later now start) with
    ⟨d, hd, hafter, hyear, hlisted, hleast⟩ | ⟨hnone, hrest⟩
  · simp only [hd]
    exact Or.inl ⟨d, rfl, firstDue_monthly hafter hlisted (by omega) hleast⟩
  · simp only [hnone]
    rcases firstInYear_nextYear_cases hdays hmonths hrest with
      ⟨d, hd, hafter, hyear, hlisted, hleast⟩ | ⟨hnone', hyear, hempty⟩ | ⟨herror, hyear⟩
    · simp only [hd]
      exact Or.inl ⟨d, rfl, firstDue_monthly hafter hlisted (by omega) hleast⟩
    · simp only [hnone']
      exact Or.inr (Or.inr ⟨trivial, hyear, hempty⟩)
    · simp only [herror]
      refine Or.inr (Or.inl ⟨trivial, hyear, ?_⟩)
      intro e he hlistedE
      have hyearE := hrest e he hlistedE
      have hlastE := e.year_le
      omega

end Window

end Agenda
