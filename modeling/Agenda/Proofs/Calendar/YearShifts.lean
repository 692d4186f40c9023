import Agenda.Calendar.Years
import Agenda.Proofs.Calendar.DayNumbers
import Agenda.Proofs.Text.Numerals
/-!
# Dates in other years

A date keeps its month and its day in another year.  The one exception is 29 February, which gives way to 1 March
in a common year, and does not come back from there.

* `Date.IsLeapDay` — the date is a 29 February.
* `Date.parts_inYear` — a date in another year; only 29 February can be missing there.
* `Date.addYears_eq_ok_iff`, `Date.addYears_eq_error_iff` — the outcomes of a shift by years.
* `Date.addYears_mono` — shifted dates are in the order of the dates.
* `Date.addYears_twice` — two shifts against one shift by their sum.
* `Date.addYears_shifts` — these laws together.
-/

namespace Agenda
namespace Date

/-- The date is a 29 February. -/
def IsLeapDay (d : Date) : Prop :=
  d.month = 2 ∧ d.day = 29

instance (d : Date) : Decidable d.IsLeapDay :=
  inferInstanceAs (Decidable (_ ∧ _))

/-- A leap day lies in a leap year. -/
theorem IsLeapDay.isLeapYear {d : Date} (hd : d.IsLeapDay) : isLeapYear d.year = true := by
  have hday := d.day_bounds.2
  rw [hd.1, hd.2] at hday
  by_contra hcommon
  simp [monthLength, hcommon] at hday

/-- Two dates are the same when their years are and their months and days are. -/
theorem eq_iff_parts {d e : Date} : d = e ↔ d.year = e.year ∧ (d.month, d.day) = (e.month, e.day) := by
  constructor
  · rintro rfl
    exact ⟨rfl, rfl⟩
  · rintro ⟨hyear, hparts⟩
    obtain ⟨hmonth, hday⟩ := Prod.mk.inj hparts
    exact Date.ext hyear hmonth hday

/-! ## The same day of another year -/

/-- Only February changes its length from year to year. -/
theorem monthLength_eq_of_ne_two (year year' : Nat) {month : Nat} (hmonth : month ≠ 2) :
    monthLength year month = monthLength year' month := by
  unfold monthLength
  split
  · exact absurd rfl hmonth
  · rfl
  · rfl
  · rfl
  · rfl
  · rfl

/-- No day of February comes after the leap day. -/
theorem day_le_of_february {d : Date} (hfebruary : d.month = 2) : d.day ≤ 29 := by
  have hday := d.day_bounds.2
  rw [hfebruary] at hday
  exact hday.trans (monthLength_february_le d.year)

/-- Only 29 February can be missing in another year, and it is missing in the years that are no leap years. -/
theorem day_le_monthLength_iff (d : Date) (year : Nat) :
    d.day ≤ monthLength year d.month
      ↔ ¬ ((d.month = 2 ∧ d.day = 29) ∧ isLeapYear year = false) := by
  have hday := d.day_bounds.2
  by_cases hfebruary : d.month = 2
  · have hlast := day_le_of_february hfebruary
    rw [hfebruary] at hday ⊢
    cases hleap : isLeapYear year with
    | true =>
        simp only [monthLength, hleap, if_true]
        simp only [reduceCtorEq, and_false, not_false_eq_true, iff_true]
        omega
    | false =>
        simp only [monthLength, hleap, Bool.false_eq_true, if_false, true_and, and_true]
        omega
  · rw [monthLength_eq_of_ne_two year d.year hfebruary]
    exact ⟨fun _ hmissing => hfebruary hmissing.1.1, fun _ => hday⟩

/-- A date keeps its month and its day in another year, unless it is a 29 February that the year lacks. -/
theorem parts_inYear (d : Date) (year : Nat) (hyear : firstYear ≤ year ∧ year ≤ lastYear) :
    ((d.inYear year hyear).month, (d.inYear year hyear).day)
      = if (d.month = 2 ∧ d.day = 29) ∧ isLeapYear year = false then (3, 1) else (d.month, d.day) := by
  have hfits := d.day_le_monthLength_iff year
  unfold inYear
  split
  · next e he =>
      obtain ⟨hyearE, hmonthE, hdayE⟩ := ofParts?_eq_some_iff.1 he
      have hend := e.day_bounds.2
      rw [hyearE, hmonthE, hdayE] at hend
      rw [if_neg (hfits.1 hend), hmonthE, hdayE]
  · next hmissing =>
      have hnot : ¬ d.day ≤ monthLength year d.month := fun hend =>
        ofParts?_eq_none_iff.1 hmissing ⟨hyear, d.month_bounds, d.day_bounds.1, hend⟩
      rw [if_pos (not_not.1 (mt hfits.2 hnot))]

/-! ## The outcomes of a shift -/

variable {d d' e e' f g : Date} {years more : Int}

/-- A date is shifted into the year asked for.  It keeps its month and its day there, unless it is a 29 February
that the year lacks. -/
theorem addYears_eq_ok_iff :
    d.addYears years = .ok e
      ↔ (e.year : Int) = d.year + years
        ∧ (e.month, e.day) = if d.IsLeapDay ∧ isLeapYear e.year = false then (3, 1) else (d.month, d.day) := by
  have hrange : firstYear ≤ e.year ∧ e.year ≤ lastYear := e.isDate.1
  unfold addYears
  simp only
  split
  · next hyear =>
      have hpos : 1 ≤ ((d.year : Int) + years).toNat := hyear.1
      have hsame : ((d.year : Int) + years).toNat = e.year ↔ (e.year : Int) = d.year + years := by
        omega
      rw [Except.ok.injEq, eq_iff_parts, year_inYear, parts_inYear, hsame]
      refine and_congr_right fun hsum => ?_
      rw [hsame.2 hsum]
      exact eq_comm
  · next hyear =>
      have hout : ¬ (e.year : Int) = d.year + years := by
        intro hsum
        rw [← hsum, Int.toNat_natCast] at hyear
        exact hyear hrange
      split
      · exact iff_of_false (by simp) fun h => hout h.1
      · exact iff_of_false (by simp) fun h => hout h.1

/-- A shift fails exactly when it leads into a year that the calendar does not have.  The year is told as long as it
has no more digits than an integer text may have. -/
theorem addYears_eq_error_iff {cause : CalendarError} :
    d.addYears years = .error cause
      ↔ ¬ (1 ≤ (d.year : Int) + years ∧ (d.year : Int) + years ≤ 9999)
        ∧ cause = if ((d.year : Int) + years).natAbs < 10 ^ Text.maxIntegerDigits
            then .beyondLastYear (d.year + years) else .yearTooLong := by
  have hdigits : (Text.decimal ((d.year : Int) + years).natAbs).length ≤ Text.maxIntegerDigits
      ↔ ((d.year : Int) + years).natAbs < 10 ^ Text.maxIntegerDigits :=
    Text.length_decimal_le_iff (by decide)
  have hin : (firstYear ≤ ((d.year : Int) + years).toNat ∧ ((d.year : Int) + years).toNat ≤ lastYear)
      ↔ 1 ≤ (d.year : Int) + years ∧ (d.year : Int) + years ≤ 9999 := by
    simp only [firstYear, lastYear]
    omega
  unfold addYears
  simp only [hdigits, ← hin]
  split
  · next hyear => simp [hyear]
  · next hyear =>
      rw [and_iff_right hyear]
      split
      · rw [Except.error.injEq, eq_comm]
      · rw [Except.error.injEq, eq_comm]

/-- The years into which a date can be shifted. -/
theorem exists_addYears_iff :
    (∃ e, d.addYears years = .ok e) ↔ 1 ≤ (d.year : Int) + years ∧ (d.year : Int) + years ≤ 9999 := by
  cases hshift : d.addYears years with
  | ok e =>
      have hyear := (addYears_eq_ok_iff.1 hshift).1
      have hfirst := e.one_le_year
      have hlast := e.year_le
      simp only [Except.ok.injEq, exists_eq', true_iff]
      omega
  | error cause =>
      simp only [reduceCtorEq, exists_false, false_iff]
      exact (addYears_eq_error_iff.1 hshift).1

/-! ## Laws of shifting -/

/-- A shift does not bring two dates out of order. -/
theorem addYears_mono (hle : d ≤ d') (he : d.addYears years = .ok e) (he' : d'.addYears years = .ok e') :
    e ≤ e' := by
  obtain ⟨hyear, hparts⟩ := addYears_eq_ok_iff.1 he
  obtain ⟨hyear', hparts'⟩ := addYears_eq_ok_iff.1 he'
  have hordered : ¬ d' < d := Nat.not_lt.2 hle
  have hday' := d'.day_bounds.1
  have hlast' := day_le_of_february (d := d')
  rw [lt_iff_parts] at hordered
  have hgoal : ¬ e' < e := by
    rw [lt_iff_parts]
    by_cases hsame : d.year = d'.year
    · have hyears : e.year = e'.year := by omega
      unfold IsLeapDay at hparts hparts'
      rw [hyears] at hparts
      cases hleap : isLeapYear e'.year with
      | true =>
          simp only [hleap, reduceCtorEq, and_false, if_false, Prod.mk.injEq] at hparts hparts'
          omega
      | false =>
          -- In a common year 1 March takes the place of 29 February, which is the day before it.
          simp only [hleap, and_true] at hparts hparts'
          split at hparts <;> split at hparts' <;> simp only [Prod.mk.injEq] at hparts hparts' <;> omega
    · omega
  exact Nat.not_lt.1 hgoal

/-- Two shifts one after the other lead to the same date as one shift by their sum, except that a 29 February that
was shifted into a common year stays on 1 March in a leap year. -/
theorem addYears_twice (he : d.addYears years = .ok e) (hf : e.addYears more = .ok f)
    (hg : d.addYears (years + more) = .ok g) :
    f.year = g.year
      ∧ (¬ (d.IsLeapDay ∧ isLeapYear e.year = false ∧ isLeapYear g.year = true) → f = g)
      ∧ (d.IsLeapDay ∧ isLeapYear e.year = false ∧ isLeapYear g.year = true →
        (f.month, f.day) = (3, 1) ∧ (g.month, g.day) = (2, 29)) := by
  obtain ⟨hyearE, hpartsE⟩ := addYears_eq_ok_iff.1 he
  obtain ⟨hyearF, hpartsF⟩ := addYears_eq_ok_iff.1 hf
  obtain ⟨hyearG, hpartsG⟩ := addYears_eq_ok_iff.1 hg
  have hyears : f.year = g.year := by omega
  rw [hyears] at hpartsF
  by_cases hlost : d.IsLeapDay ∧ isLeapYear e.year = false
  · -- The date in between is 1 March, and so is the last one.
    rw [if_pos hlost] at hpartsE
    obtain ⟨hmonthE, hdayE⟩ := Prod.mk.inj hpartsE
    have hnot : ¬ (e.IsLeapDay ∧ isLeapYear g.year = false) := by
      rintro ⟨⟨hmonth, -⟩, -⟩
      omega
    rw [if_neg hnot, hpartsE] at hpartsF
    cases hleap : isLeapYear g.year with
    | true =>
        rw [if_neg (by simp [hleap])] at hpartsG
        refine ⟨hyears, fun hno => absurd ⟨hlost.1, hlost.2, rfl⟩ hno, fun _ => ⟨hpartsF, ?_⟩⟩
        rw [hpartsG, hlost.1.1, hlost.1.2]
    | false =>
        rw [if_pos ⟨hlost.1, hleap⟩] at hpartsG
        exact ⟨hyears, fun _ => eq_iff_parts.2 ⟨hyears, hpartsF.trans hpartsG.symm⟩, nofun⟩
  · -- The date in between has the month and the day of the first one.
    rw [if_neg hlost] at hpartsE
    obtain ⟨hmonthE, hdayE⟩ := Prod.mk.inj hpartsE
    have hsame : e.IsLeapDay ↔ d.IsLeapDay := by
      unfold IsLeapDay
      rw [hmonthE, hdayE]
    simp only [hsame, hpartsE] at hpartsF
    exact ⟨hyears, fun _ => eq_iff_parts.2 ⟨hyears, hpartsF.trans hpartsG.symm⟩,
      fun h => absurd ⟨h.1, h.2.1⟩ hlost⟩

/-- A shift by years succeeds exactly when the calendar has the year, which is then the year of the date; otherwise
the year is told, unless it has more digits than an integer text may have.  Shifted dates are in the order of the
dates.  Two shifts are one shift by their sum, except for a 29 February on its way through a common year into a
leap year: it ends on 1 March, where one shift ends on 29 February. -/
theorem addYears_shifts (d : Date) (years : Int) :
    ((∃ e, d.addYears years = .ok e) ↔ 1 ≤ (d.year : Int) + years ∧ (d.year : Int) + years ≤ 9999)
    ∧ (∀ e, d.addYears years = .ok e → (e.year : Int) = d.year + years)
    ∧ (d.addYears years = .error (.beyondLastYear (d.year + years))
      ↔ ¬ (1 ≤ (d.year : Int) + years ∧ (d.year : Int) + years ≤ 9999)
        ∧ ((d.year : Int) + years).natAbs < 10 ^ Text.maxIntegerDigits)
    ∧ (d.addYears years = .error .yearTooLong
      ↔ 10 ^ Text.maxIntegerDigits ≤ ((d.year : Int) + years).natAbs)
    ∧ (∀ d' e e', d ≤ d' → d.addYears years = .ok e → d'.addYears years = .ok e' → e ≤ e')
    ∧ ∀ more e f g, d.addYears years = .ok e → e.addYears more = .ok f → d.addYears (years + more) = .ok g →
      (¬ (d.IsLeapDay ∧ isLeapYear e.year = false ∧ isLeapYear g.year = true) → f = g)
        ∧ (d.IsLeapDay ∧ isLeapYear e.year = false ∧ isLeapYear g.year = true →
          f.year = g.year ∧ (f.month, f.day) = (3, 1) ∧ (g.month, g.day) = (2, 29)) := by
  refine ⟨exists_addYears_iff, fun e he => (addYears_eq_ok_iff.1 he).1, ?_, ?_,
    fun d' e e' hle he he' => addYears_mono hle he he', fun more e f g he hf hg => ?_⟩
  · rw [addYears_eq_error_iff]
    refine and_congr_right fun _ => ?_
    split
    · next hshort => simp [hshort]
    · next hlong => simp [hlong]
  · -- The years of the calendar have four digits.
    have hlarge : 10 ^ 4 ≤ 10 ^ Text.maxIntegerDigits := Nat.pow_le_pow_right (by decide) (by decide)
    rw [addYears_eq_error_iff]
    generalize 10 ^ Text.maxIntegerDigits = bound at hlarge ⊢
    split
    · next hshort =>
        simp only [reduceCtorEq, and_false, false_iff]
        omega
    · next hlong =>
        simp only [and_true]
        omega
  · obtain ⟨hyears, hsame, hlost⟩ := addYears_twice he hf hg
    exact ⟨hsame, fun h => ⟨hyears, hlost h⟩⟩

/-- On its way through the century year 2100 a 29 February is lost for good. -/
theorem addYears_shifts_century :
    let leap : Date := ⟨2096, 2, 29, by decide⟩
    let century : Date := ⟨2100, 3, 1, by decide⟩
    let late : Date := ⟨2104, 3, 1, by decide⟩
    let direct : Date := ⟨2104, 2, 29, by decide⟩
    (leap.addYears 4 = .ok century ∧ century.addYears 4 = .ok late ∧ leap.addYears (4 + 4) = .ok direct)
      ∧ (leap.IsLeapDay ∧ isLeapYear century.year = false ∧ isLeapYear direct.year = true)
      ∧ late.year = direct.year ∧ (late.month, late.day) = (3, 1) ∧ (direct.month, direct.day) = (2, 29) := by
  intro leap century late direct
  have hfirst : leap.addYears 4 = .ok century := by decide
  have hsecond : century.addYears 4 = .ok late := by decide
  have hsum : leap.addYears (4 + 4) = .ok direct := by decide
  have hlost : leap.IsLeapDay ∧ isLeapYear century.year = false ∧ isLeapYear direct.year = true := by decide
  exact ⟨⟨hfirst, hsecond, hsum⟩, hlost,
    ((addYears_shifts leap 4).2.2.2.2.2 4 century late direct hfirst hsecond hsum).2 hlost⟩

/-- A year that has too many digits for an integer text is missing from the calendar, but the failure is not the one
that tells the year. -/
theorem addYears_shifts_untold :
    let leap : Date := ⟨2024, 2, 29, by decide⟩
    let years : Int := 10 ^ 4300 - 1
    ¬ (1 ≤ (leap.year : Int) + years ∧ (leap.year : Int) + years ≤ 9999)
      ∧ leap.addYears years ≠ .error (.beyondLastYear (leap.year + years))
      ∧ leap.addYears years = .error .yearTooLong := by
  intro leap years
  have hbound : (10 : Int) ^ 4300 = ((10 ^ Text.maxIntegerDigits : Nat) : Int) := by
    rw [Nat.cast_pow, Nat.cast_ofNat]
    rfl
  have hlarge : 10 ^ 4 ≤ 10 ^ Text.maxIntegerDigits := Nat.pow_le_pow_right (by decide) (by decide)
  have hyear : (leap.year : Int) + years = 2023 + ((10 ^ Text.maxIntegerDigits : Nat) : Int) := by
    show 2024 + ((10 : Int) ^ 4300 - 1) = _
    rw [hbound]
    omega
  have huntold : leap.addYears years = .error .yearTooLong := by
    rw [addYears_eq_error_iff, hyear]
    generalize 10 ^ Text.maxIntegerDigits = bound at hlarge ⊢
    refine ⟨by omega, ?_⟩
    rw [if_neg (by omega)]
  refine ⟨?_, ?_, huntold⟩
  · rw [hyear]
    omega
  · rw [huntold]
    nofun

end Date
end Agenda
