import Agenda.Proofs.Recurrence.Outcomes
import Agenda.Proofs.Recurrence.RuleGrammar
/-!
# When two years are enough

A monthly rule is followed to the end of the year after its base date.  If a listed day fits into a
listed month of a common year, it does so in every year, and the search always succeeds.  If none does,
the rule can only be about 29 February, and the search is starved between two leap years.

* `FitsCommonYear` — a listed day fits into a listed month of a common year.
* `exists_listed_of_fits` — such a rule has a date in every year.
* `leapDay_of_listed` — any other rule has none but leap days.
* `monthly_next_classification` — both sides, for every monthly rule that a text denotes.
-/

namespace Agenda

/-- Some listed day fits into some listed month of a common year.  The last two days of a month fit into
every month. -/
def FitsCommonYear (days months : List Int) : Prop :=
  ∃ month ∈ months, ∃ day ∈ days,
    day < 0 ∨ ∃ year, isLeapYear year = false ∧ day ≤ monthLength year month.toNat

/-- No month is shorter in a year than in a common year. -/
theorem monthLength_le_of_common (year month : Nat) {common : Nat} (hcommon : isLeapYear common = false) :
    monthLength common month ≤ monthLength year month := by
  by_cases hfebruary : month = 2
  · subst hfebruary
    rw [show monthLength common 2 = 28 by simp [monthLength, hcommon]]
    exact (monthLength_bounds year 2).1
  · exact (Date.monthLength_eq_of_ne_two common year hfebruary).le

/-- A day beyond the end of its month in common years is the leap day. -/
theorem eq_leapDay_of_common_lt {year common month day : Nat} (hcommon : isLeapYear common = false)
    (hlong : monthLength common month < day) (hday : day ≤ monthLength year month) :
    month = 2 ∧ day = 29 := by
  by_cases hfebruary : month = 2
  · subst hfebruary
    have hshort : monthLength common 2 = 28 := by simp [monthLength, hcommon]
    have hlast := monthLength_february_le year
    exact ⟨rfl, by omega⟩
  · rw [Date.monthLength_eq_of_ne_two common year hfebruary] at hlong
    omega

section Rules

variable {days months : List Int}

/-- A rule with a day that fits into a common year has a date in every year. -/
theorem exists_listed_of_fits (hdays : AscendingOf IsMonthDay days)
    (hmonths : AscendingOf IsMonth months) (hfits : FitsCommonYear days months) (year : Nat)
    (hyear : 1 ≤ year ∧ year ≤ 9999) :
    ∃ d : Date, d.year = year ∧ MonthDayListed days months d := by
  obtain ⟨month, hmonth, day, hday, hfit⟩ := hfits
  obtain ⟨hmonthLow, hmonthHigh⟩ := hmonths.2.2 month hmonth
  obtain ⟨month, rfl⟩ := Int.eq_ofNat_of_zero_le (show 0 ≤ month by omega)
  have hlength := (monthLength_bounds year month).1
  have hbuild : ∀ n : Nat, 1 ≤ n ∧ n ≤ monthLength year month → ∃ d : Date, d.year = year
      ∧ d.month = month ∧ d.day = n := by
    intro n hn
    exact ⟨⟨year, month, n, hyear, ⟨by omega, by omega⟩, hn⟩, rfl, rfl, rfl⟩
  have hrange : IsMonthDay day := hdays.2.2 day hday
  unfold IsMonthDay at hrange
  rcases hrange with ⟨hlow, hhigh⟩ | rfl | rfl
  · obtain ⟨day, rfl⟩ := Int.eq_ofNat_of_zero_le (show 0 ≤ day by omega)
    have hend : day ≤ monthLength year month := by
      rcases hfit with hnegative | ⟨common, hcommon, hle⟩
      · omega
      · have hmono := monthLength_le_of_common year month hcommon
        rw [Int.toNat_natCast] at hle
        omega
    obtain ⟨d, hdyear, hdmonth, hdday⟩ := hbuild day ⟨by omega, hend⟩
    exact ⟨d, hdyear, by rw [hdmonth]; exact hmonth, Or.inl (by rw [hdday]; exact hday)⟩
  · obtain ⟨d, hdyear, hdmonth, hdday⟩ := hbuild (monthLength year month) ⟨by omega, le_refl _⟩
    exact ⟨d, hdyear, by rw [hdmonth]; exact hmonth,
      Or.inr (Or.inl ⟨hday, by rw [hdyear, hdmonth, hdday]⟩)⟩
  · obtain ⟨d, hdyear, hdmonth, hdday⟩ := hbuild (monthLength year month - 1) ⟨by omega, by omega⟩
    exact ⟨d, hdyear, by rw [hdmonth]; exact hmonth,
      Or.inr (Or.inr ⟨hday, by rw [hdyear, hdmonth, hdday]; omega⟩)⟩

/-- A rule without a day that fits into a common year has none but leap days. -/
theorem leapDay_of_listed (hnot : ¬ FitsCommonYear days months) {d : Date}
    (hlisted : MonthDayListed days months d) : d.IsLeapDay ∧ 29 ∈ days ∧ 2 ∈ months := by
  obtain ⟨hmonth, hday⟩ := hlisted
  rcases hday with hday | ⟨hlast, -⟩ | ⟨hlast, -⟩
  · have hcommon : isLeapYear 2001 = false := by decide
    have hlong : monthLength 2001 d.month < d.day := by
      by_contra hshort
      refine hnot ⟨d.month, hmonth, d.day, hday, Or.inr ⟨2001, hcommon, ?_⟩⟩
      rw [Int.toNat_natCast]
      omega
    obtain ⟨hfebruary, htwentyNine⟩ := eq_leapDay_of_common_lt hcommon hlong d.day_bounds.2
    rw [hfebruary] at hmonth
    rw [htwentyNine] at hday
    exact ⟨⟨hfebruary, htwentyNine⟩, hday, hmonth⟩
  · exact absurd ⟨d.month, hmonth, -1, hlast, Or.inl (by omega)⟩ hnot
  · exact absurd ⟨d.month, hmonth, -2, hlast, Or.inl (by omega)⟩ hnot

/-- A rule with a day that fits into a common year is starved for no base date. -/
theorem not_starved_of_fits (hdays : AscendingOf IsMonthDay days)
    (hmonths : AscendingOf IsMonth months) (hfits : FitsCommonYear days months) (base : Date) :
    ¬ (Rule.monthly days months).Starved base := by
  rintro ⟨hyear, hnone⟩
  have hfirst := base.one_le_year
  obtain ⟨d, hdyear, hlisted⟩ :=
    exists_listed_of_fits hdays hmonths hfits (base.year + 1) ⟨by omega, by omega⟩
  exact hnone d (Date.lt_of_year_lt (by omega)) (Or.inr hdyear) hlisted

/-- A rule without such a day is starved exactly when no leap day lies ahead in the two years that are
searched, or when it is not about leap days at all. -/
theorem starved_iff_of_not_fits (hnot : ¬ FitsCommonYear days months) {base : Date}
    (hbase : base.year ≤ 9998) :
    (Rule.monthly days months).Starved base
      ↔ ¬ ((29 ∈ days ∧ 2 ∈ months)
        ∧ ∃ d : Date, d.IsLeapDay ∧ base < d ∧ (d.year = base.year ∨ d.year = base.year + 1)) := by
  constructor
  · rintro ⟨-, hnone⟩ ⟨⟨hday, hmonth⟩, d, ⟨hdmonth, hdday⟩, hafter, hyear⟩
    refine hnone d hafter hyear ⟨?_, Or.inl ?_⟩
    · rw [hdmonth]
      exact hmonth
    · rw [hdday]
      exact hday
  · intro hno
    refine ⟨hbase, ?_⟩
    intro d hafter hyear hlisted
    obtain ⟨hleap, hlistedDay⟩ := leapDay_of_listed hnot hlisted
    exact hno ⟨hlistedDay, d, hleap, hafter, hyear⟩

/-- At most one leap day lies in two years. -/
theorem eq_of_isLeapDay {d e : Date} {year : Nat} (hd : d.IsLeapDay) (he : e.IsLeapDay)
    (hdyear : d.year = year ∨ d.year = year + 1) (heyear : e.year = year ∨ e.year = year + 1) :
    d = e := by
  have hnotBoth : ¬ (isLeapYear year = true ∧ isLeapYear (year + 1) = true) := by
    rintro ⟨hleap, hnext⟩
    rw [isLeapYear_succ hleap] at hnext
    cases hnext
  have hdleap := hd.isLeapYear
  have heleap := he.isLeapYear
  have hyear : d.year = e.year := by
    rcases hdyear with hdyear | hdyear <;> rcases heyear with heyear | heyear
    · rw [hdyear, heyear]
    · rw [hdyear] at hdleap
      rw [heyear] at heleap
      exact absurd ⟨hdleap, heleap⟩ hnotBoth
    · rw [hdyear] at hdleap
      rw [heyear] at heleap
      exact absurd ⟨heleap, hdleap⟩ hnotBoth
    · rw [hdyear, heyear]
  exact Date.ext hyear (hd.1.trans he.1.symm) (hd.2.trans he.2.symm)

/-- A leap day in the two years that are searched is found by a rule that is about nothing else. -/
theorem next_eq_leapDay (hwf : (Rule.monthly days months).WellFormed)
    (hnot : ¬ FitsCommonYear days months) (hleapDay : 29 ∈ days ∧ 2 ∈ months) {now start d : Date}
    (hbase : (Date.later now start).year ≤ 9998) (hd : d.IsLeapDay)
    (hafter : Date.later now start < d)
    (hyear : d.year = (Date.later now start).year ∨ d.year = (Date.later now start).year + 1) :
    (Rule.monthly days months).next now start = .ok d := by
  rcases Rule.next_cases hwf now start with ⟨e, he, hdue⟩ | ⟨cause, -, hleaves⟩ | ⟨-, hstarved⟩
  · obtain ⟨hafterE, hlisted⟩ := Rule.dueOn_monthly_iff.1 ⟨hdue.due, hdue.after⟩
    have hleapE := (leapDay_of_listed hnot hlisted).1
    have hlow := Date.year_le_of_lt hafterE
    have hhigh : e.year ≤ (Date.later now start).year + 1 := hdue.searched
    rw [he, eq_of_isLeapDay hleapE hd (by omega) hyear]
  · have hlast : (Date.later now start).year = 9999 := hleaves.1
    omega
  · exact absurd ⟨hleapDay, d, hd, hafter, hyear⟩ ((starved_iff_of_not_fits hnot hbase).1 hstarved)

/-- A monthly rule has a next date for every base date of a year up to 9998 exactly when some listed day
fits into some listed month of a common year.  Otherwise it is about 29 February alone, which is found
where it lies ahead in the two years that are searched, or it never has a date. -/
theorem monthly_next_classification {text : String}
    (hrule : RuleText.parse text = .ok (.monthly days months)) :
    ((∀ now start, (Date.later now start).year ≤ 9998 →
        ∃ d, (Rule.monthly days months).next now start = .ok d)
      ↔ FitsCommonYear days months)
    ∧ (¬ FitsCommonYear days months →
      ((29 ∈ days ∧ 2 ∈ months)
        ∧ ∀ now start, (Date.later now start).year ≤ 9998 →
          ((Rule.monthly days months).next now start = .error (.noMatchingDay months)
            ↔ ¬ ∃ d : Date, d.IsLeapDay ∧ Date.later now start < d
              ∧ (d.year = (Date.later now start).year ∨ d.year = (Date.later now start).year + 1))
          ∧ ∀ d : Date, d.IsLeapDay → Date.later now start < d →
            (d.year = (Date.later now start).year ∨ d.year = (Date.later now start).year + 1) →
            (Rule.monthly days months).next now start = .ok d)
      ∨ (¬ (29 ∈ days ∧ 2 ∈ months)
        ∧ ∀ now start, (Date.later now start).year ≤ 9998 →
          (Rule.monthly days months).next now start = .error (.noMatchingDay months))) := by
  have hwf := RuleText.wellFormed_of_parse hrule
  have hmissing : ∀ now start, (Rule.monthly days months).next now start = .error (.noMatchingDay months)
      ↔ (Rule.monthly days months).Starved (Date.later now start) := fun now start =>
    Rule.next_noMatchingDay_iff hwf
  refine ⟨⟨?_, ?_⟩, ?_⟩
  · intro halways
    by_contra hnot
    -- Two common years in a row have no leap day.
    obtain ⟨base, hbase⟩ : ∃ base : Date, base.year = 2001 := ⟨⟨2001, 1, 1, by decide⟩, rfl⟩
    have hself : Date.later base base = base := Date.later_eq_right (Nat.le_refl base.dayNumber)
    have hstarved : (Rule.monthly days months).Starved (Date.later base base) := by
      rw [hself, starved_iff_of_not_fits hnot (by omega), hbase]
      rintro ⟨-, d, hd, -, hyear⟩
      have hleap := hd.isLeapYear
      rcases hyear with heq | heq <;> rw [heq] at hleap <;> exact absurd hleap (by decide)
    obtain ⟨d, hd⟩ := halways base base (by rw [hself]; omega)
    rw [← hmissing, hd] at hstarved
    cases hstarved
  · intro hfits now start hbase
    rcases Rule.next_cases hwf now start with ⟨d, hd, -⟩ | ⟨cause, -, hleaves⟩ | ⟨-, hstarved⟩
    · exact ⟨d, hd⟩
    · have hlast : (Date.later now start).year = 9999 := hleaves.1
      omega
    · exact absurd hstarved (not_starved_of_fits hwf.1 hwf.2 hfits _)
  · intro hnot
    by_cases hleapDay : 29 ∈ days ∧ 2 ∈ months
    · refine Or.inl ⟨hleapDay, ?_⟩
      intro now start hbase
      refine ⟨?_, fun d hd hafter hyear =>
        next_eq_leapDay hwf hnot hleapDay hbase hd hafter hyear⟩
      rw [hmissing, starved_iff_of_not_fits hnot hbase]
      exact ⟨fun hno hd => hno ⟨hleapDay, hd⟩, fun hno hd => hno hd.2⟩
    · refine Or.inr ⟨hleapDay, ?_⟩
      intro now start hbase
      rw [hmissing, starved_iff_of_not_fits hnot hbase]
      exact fun hd => hleapDay hd.1

/-- The century year 2100 has no leap day, so that none lies ahead on 1 June 2099. -/
theorem monthly_next_classification_century :
    RuleText.parse "m 29,30 2" = .ok (.monthly [29, 30] [2])
      ∧ ¬ FitsCommonYear [29, 30] [2]
      ∧ (Rule.monthly [29, 30] [2]).next ⟨2099, 6, 1, by decide⟩ ⟨2096, 3, 1, by decide⟩
        = .error (.noMatchingDay [2]) := by
  have hparse : RuleText.parse "m 29,30 2" = .ok (.monthly [29, 30] [2]) := by decide
  have hnot : ¬ FitsCommonYear [29, 30] [2] := by
    rintro ⟨month, hmonth, day, hday, hfit⟩
    obtain rfl := List.mem_singleton.1 hmonth
    have hlow : 29 ≤ day := by
      rcases List.mem_cons.1 hday with rfl | hday
      · omega
      · rw [List.mem_singleton.1 hday]
        omega
    rcases hfit with hnegative | ⟨year, hcommon, hle⟩
    · omega
    · simp [monthLength, hcommon] at hle
      omega
  refine ⟨hparse, hnot, ?_⟩
  rcases (monthly_next_classification hparse).2 hnot with ⟨-, hleap⟩ | ⟨hno, -⟩
  · refine (hleap _ _ (by decide)).1.2 ?_
    rintro ⟨d, hd, -, hyear⟩
    have hyearLeap := hd.isLeapYear
    rcases hyear with heq | heq <;> rw [heq] at hyearLeap <;> exact absurd hyearLeap (by decide)
  · exact absurd (by decide) hno

end Rules

end Agenda
