import Agenda.Proofs.Recurrence.Outcomes
import Agenda.Proofs.Recurrence.RuleGrammar
/-!
# The two years of a monthly search

What a monthly rule looks for, said with nothing but the calendar: a listed date that comes after the base
date, in its year or the year after it.

* `MonthlyCandidate` — the dates that a search from a base date may end at.
* `firstDue_monthly_iff`, `starved_monthly_iff`, `leavesCalendar_monthly_iff` — the first due day of a
  monthly rule and the two ways to miss it, by candidates.
* `nextMonthly_earliest` — the search ends at the earliest candidate, and fails exactly if there is none.
-/

namespace Agenda

/-- A date that a search from a base date may end at: a listed date after it, in the same year or in the
next one. -/
structure MonthlyCandidate (days months : List Int) (base d : Date) : Prop where
  after : base < d
  year : d.year = base.year ∨ d.year = base.year + 1
  listed : MonthDayListed days months d

section Candidates

variable {days months : List Int}

/-- The first due day of a monthly rule is the earliest candidate. -/
theorem firstDue_monthly_iff {now start d : Date} :
    (Rule.monthly days months).FirstDue now start d
      ↔ MonthlyCandidate days months (Date.later now start) d
        ∧ ∀ e, MonthlyCandidate days months (Date.later now start) e → d ≤ e := by
  constructor
  · intro hd
    obtain ⟨hafter, hlisted⟩ := Rule.dueOn_monthly_iff.1 ⟨hd.due, hd.after⟩
    have hlow := Date.year_le_of_lt hafter
    have hhigh : d.year ≤ (Date.later now start).year + 1 := hd.searched
    refine ⟨⟨hafter, by omega, hlisted⟩, ?_⟩
    intro e he
    obtain ⟨hdue, hnow⟩ := Rule.dueOn_monthly_iff.2 ⟨he.after, he.listed⟩
    exact hd.least e.dayNumber hdue hnow
  · rintro ⟨hd, hleast⟩
    have hyear := hd.year
    refine firstDue_monthly hd.after hd.listed (by omega) ?_
    intro e hafter hlisted
    -- A listed date of a later year is no candidate, but it comes after the two years anyway.
    by_cases hsearched : e.year ≤ (Date.later now start).year + 1
    · have hlow := Date.year_le_of_lt hafter
      exact hleast e ⟨hafter, by omega, hlisted⟩
    · exact Nat.le_of_lt (Date.lt_of_year_lt (show d.year < e.year by omega))

/-- A monthly rule is starved in the years before the last one when there is no candidate. -/
theorem starved_monthly_iff {base : Date} (hbase : base.year ≤ 9998) :
    (Rule.monthly days months).Starved base ↔ ¬ ∃ d, MonthlyCandidate days months base d := by
  constructor
  · rintro ⟨-, hnone⟩ ⟨d, hd⟩
    exact hnone d hd.after hd.year hd.listed
  · intro hnone
    exact ⟨hbase, fun d hafter hyear hlisted => hnone ⟨d, hafter, hyear, hlisted⟩⟩

/-- In the last year of the calendar a monthly rule without a candidate leaves the calendar. -/
theorem leavesCalendar_monthly_iff {now start : Date} (hbase : (Date.later now start).year = 9999) :
    (Rule.monthly days months).LeavesCalendar now start
      ↔ ¬ ∃ d, MonthlyCandidate days months (Date.later now start) d := by
  constructor
  · rintro ⟨-, hnone⟩ ⟨d, hd⟩
    exact hnone d hd.after hd.listed
  · intro hnone
    refine ⟨hbase, fun d hafter hlisted => hnone ⟨d, hafter, Or.inl ?_, hlisted⟩⟩
    have hlow := Date.year_le_of_lt hafter
    have hlast := d.year_le
    omega

/-- For a rule that a text denotes, the search ends at the earliest listed date after the base date that
lies in its year or the next one.  If there is none, the rule is refused for its months, or, when the base
date lies in the last year, because there is no year 10000. -/
theorem nextMonthly_earliest {text : String}
    (hrule : RuleText.parse text = .ok (.monthly days months)) (now start : Date) :
    (∀ d, nextMonthly now start days months = .ok d
      ↔ MonthlyCandidate days months (Date.later now start) d
        ∧ ∀ e, MonthlyCandidate days months (Date.later now start) e → d ≤ e)
    ∧ ((∃ d, MonthlyCandidate days months (Date.later now start) d) →
      ∃ d, nextMonthly now start days months = .ok d)
    ∧ ((Date.later now start).year ≤ 9998 →
      (nextMonthly now start days months = .error (.noMatchingDay months)
        ↔ ¬ ∃ d, MonthlyCandidate days months (Date.later now start) d))
    ∧ ((Date.later now start).year = 9999 →
      (nextMonthly now start days months = .error (.calendar (.noSuchYear 10000))
        ↔ ¬ ∃ d, d.year = 9999 ∧ Date.later now start < d ∧ MonthDayListed days months d)) := by
  have hwf := RuleText.wellFormed_of_parse hrule
  have hfound : ∀ d, nextMonthly now start days months = .ok d
      ↔ MonthlyCandidate days months (Date.later now start) d
        ∧ ∀ e, MonthlyCandidate days months (Date.later now start) e → d ≤ e := fun d =>
    (Rule.next_eq_ok_iff hwf).trans firstDue_monthly_iff
  have hcandidate : (Date.later now start).year = 9999 → ∀ d,
      MonthlyCandidate days months (Date.later now start) d
        ↔ d.year = 9999 ∧ Date.later now start < d ∧ MonthDayListed days months d := by
    intro hlast d
    have hend := d.year_le
    constructor
    · intro hd
      exact ⟨by have := hd.year; omega, hd.after, hd.listed⟩
    · rintro ⟨hyear, hafter, hlisted⟩
      exact ⟨hafter, by omega, hlisted⟩
  rcases nextMonthly_cases hwf.1 hwf.2 now start with ⟨d, hd, hdue⟩ | ⟨herror, hleaves⟩ |
    ⟨herror, hstarved⟩
  · have hcand := (firstDue_monthly_iff.1 hdue).1
    refine ⟨hfound, fun _ => ⟨d, hd⟩, fun _ => ?_, fun hlast => ?_⟩
    · rw [hd]
      exact ⟨nofun, fun hnone => absurd ⟨d, hcand⟩ hnone⟩
    · rw [hd]
      exact ⟨nofun, fun hnone => absurd ⟨d, (hcandidate hlast d).1 hcand⟩ hnone⟩
  · have hlast : (Date.later now start).year = 9999 := hleaves.1
    have hnone := (leavesCalendar_monthly_iff hlast).1 hleaves
    refine ⟨hfound, fun hsome => absurd hsome hnone, fun hbefore => by omega, fun _ => ?_⟩
    refine ⟨fun _ => ?_, fun _ => herror⟩
    rintro ⟨d, hd⟩
    exact hnone ⟨d, (hcandidate hlast d).2 hd⟩
  · have hbefore : (Date.later now start).year ≤ 9998 := hstarved.1
    have hnone := (starved_monthly_iff hbefore).1 hstarved
    exact ⟨hfound, fun hsome => absurd hsome hnone, fun _ => ⟨fun _ => hnone, fun _ => herror⟩,
      fun hlast => by omega⟩

/-- From the second to last day of a February, the days 31 and second to last of February and April lead to
29 April, since neither month has a day 31.  The rule for 30 February fails in two ways. -/
theorem nextMonthly_earliest_april :
    RuleText.parse "m 31,-2 2,4" = .ok (.monthly [-2, 31] [2, 4])
      ∧ nextMonthly ⟨2024, 2, 28, by decide⟩ ⟨2024, 1, 31, by decide⟩ [-2, 31] [2, 4]
        = .ok ⟨2024, 4, 29, by decide⟩
      ∧ (∀ e, MonthlyCandidate [-2, 31] [2, 4] ⟨2024, 2, 28, by decide⟩ e →
        (⟨2024, 4, 29, by decide⟩ : Date) ≤ e)
      ∧ RuleText.parse "m 30 2" = .ok (.monthly [30] [2])
      ∧ nextMonthly ⟨9998, 12, 31, by decide⟩ ⟨9998, 2, 28, by decide⟩ [30] [2]
        = .error (.noMatchingDay [2])
      ∧ nextMonthly ⟨9999, 1, 1, by decide⟩ ⟨9998, 2, 28, by decide⟩ [30] [2]
        = .error (.calendar (.noSuchYear 10000)) := by
  have hparse : RuleText.parse "m 31,-2 2,4" = .ok (.monthly [-2, 31] [2, 4]) := by decide +kernel
  have hparse' : RuleText.parse "m 30 2" = .ok (.monthly [30] [2]) := by decide +kernel
  -- No month of February has thirty days, in no year.
  have hnone : ∀ d, ¬ MonthDayListed [30] [2] d := by
    intro d hlisted
    obtain ⟨hmonth, hday⟩ := hlisted
    have hend := d.day_bounds.2
    simp only [List.mem_singleton] at hmonth hday
    have hfebruary : d.month = 2 := by omega
    rw [hfebruary] at hend hday
    have hlength : monthLength d.year 2 ≤ 29 := by
      simp only [monthLength]
      split <;> omega
    omega
  have hapril : nextMonthly ⟨2024, 2, 28, by decide⟩ ⟨2024, 1, 31, by decide⟩ [-2, 31] [2, 4]
      = .ok ⟨2024, 4, 29, by decide⟩ := by decide +kernel
  refine ⟨hparse, hapril, (((nextMonthly_earliest hparse _ _).1 _).1 hapril).2, hparse', ?_, ?_⟩
  · refine ((nextMonthly_earliest hparse' _ _).2.2.1 (by decide)).2 ?_
    rintro ⟨d, hd⟩
    exact hnone d hd.listed
  · refine ((nextMonthly_earliest hparse' _ _).2.2.2 (by decide)).2 ?_
    rintro ⟨d, -, -, hlisted⟩
    exact hnone d hlisted

end Candidates

end Agenda
