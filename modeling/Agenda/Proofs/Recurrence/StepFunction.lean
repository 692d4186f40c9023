import Agenda.Proofs.Recurrence.Outcomes
import Agenda.Proofs.Recurrence.RuleGrammar
/-!
# The next date as a function of the reference day

While the reference day stays before the date that is announced, this date remains the answer; once the
reference day reaches it, a later one takes its place.  When the calendar has ended for a reference day,
it has ended for all later ones.

* `Rule.FirstDue.of_le_now` — a first due date stays the first one until the reference day reaches it.
* `Rule.LeavesCalendar.of_le_now` — a search that leaves the calendar does so from any later day.
* `Rule.next_stepFunction` — both together, for every rule that a text denotes.
-/

namespace Agenda
namespace Rule

variable {rule : Rule} {now now' start : Date}

/-- A first due date stays the first one as long as the reference day does not reach it.  For a monthly
rule the years that are searched only move forward. -/
theorem FirstDue.of_le_now {d : Date} (hd : rule.FirstDue now start d) (hnow : now ≤ now')
    (hbefore : now' < d) : rule.FirstDue now' start d := by
  refine ⟨hd.due, hbefore, ?_, ?_⟩
  · intro n hn hafter
    rw [Date.le_iff] at hnow
    exact hd.least n hn (by omega)
  · have hsearched := hd.searched
    cases rule with
    | daily interval => trivial
    | yearly => trivial
    | weekly weekdays => trivial
    | monthly days months =>
        have hyear := Date.year_later_mono start hnow
        have hwindow : d.year ≤ (Date.later now start).year + 1 := hsearched
        show d.year ≤ (Date.later now' start).year + 1
        omega

/-- A search that leaves the calendar leaves it from any later reference day. -/
theorem LeavesCalendar.of_le_now (hleaves : rule.LeavesCalendar now start) (hnow : now ≤ now') :
    rule.LeavesCalendar now' start := by
  have hlast := now'.dayNumber_le_lastDayNumber
  -- A least due day beyond the calendar comes after all reference days.
  have hother : (∃ n, IsLeast {m | rule.DueOn start m ∧ now.dayNumber < m} n ∧ lastDayNumber < n) →
      ∃ n, IsLeast {m | rule.DueOn start m ∧ now'.dayNumber < m} n ∧ lastDayNumber < n := by
    rintro ⟨n, ⟨⟨hdue, -⟩, hleast⟩, hbeyond⟩
    refine ⟨n, ⟨⟨hdue, by omega⟩, ?_⟩, hbeyond⟩
    rintro m ⟨hm, hafter⟩
    rw [Date.le_iff] at hnow
    exact hleast ⟨hm, by omega⟩
  cases rule with
  | daily interval => exact hother hleaves
  | yearly => exact hother hleaves
  | weekly weekdays => exact hother hleaves
  | monthly days months =>
      obtain ⟨hyear, hnone⟩ := hleaves
      have hmono := Date.year_later_mono start hnow
      have hend := (Date.later now' start).year_le
      refine ⟨by omega, ?_⟩
      intro d hd
      apply hnone
      rw [Date.later_lt_iff] at hd ⊢
      rw [Date.le_iff] at hnow
      rw [Date.lt_iff] at hd ⊢
      exact ⟨by omega, hd.2⟩

/-- The next date as a function of the reference day is a step function: it stays the same until the
reference day reaches it, it is later from then on, and once the calendar has ended it remains so. -/
theorem next_stepFunction {text : String} (hrule : RuleText.parse text = .ok rule)
    (hnow : now ≤ now') :
    (∀ d, rule.next now start = .ok d → now' < d → rule.next now' start = .ok d)
      ∧ (∀ d d', rule.next now start = .ok d → d ≤ now' → rule.next now' start = .ok d' → d < d')
      ∧ ((∃ cause, rule.next now start = .error (.calendar cause)) →
        ∃ cause, rule.next now' start = .error (.calendar cause)) := by
  have hwf := RuleText.wellFormed_of_parse hrule
  refine ⟨?_, ?_, ?_⟩
  · intro d hd hbefore
    rw [next_eq_ok_iff hwf] at hd ⊢
    exact hd.of_le_now hnow hbefore
  · intro d d' hd hreached hd'
    have hafter := (lt_of_next_eq_ok hwf hd').1
    rw [Date.le_iff] at hreached
    rw [Date.lt_iff] at hafter ⊢
    omega
  · rw [next_calendar_iff hwf, next_calendar_iff hwf]
    intro hleaves
    exact hleaves.of_le_now hnow

/-- From 28 February 2023 to 28 February 2024 the same 29 February is announced, although the search
begins a year later at the end. -/
theorem next_stepFunction_leapDay :
    RuleText.parse "m 29 2" = .ok (.monthly [29] [2])
      ∧ (⟨2023, 2, 28, by decide⟩ : Date) ≤ ⟨2024, 2, 28, by decide⟩
      ∧ (monthly [29] [2]).next ⟨2023, 2, 28, by decide⟩ ⟨2020, 2, 29, by decide⟩
        = .ok ⟨2024, 2, 29, by decide⟩
      ∧ (monthly [29] [2]).next ⟨2024, 2, 28, by decide⟩ ⟨2020, 2, 29, by decide⟩
        = .ok ⟨2024, 2, 29, by decide⟩ := by
  have hparse : RuleText.parse "m 29 2" = .ok (.monthly [29] [2]) := by decide
  have hnow : (⟨2023, 2, 28, by decide⟩ : Date) ≤ ⟨2024, 2, 28, by decide⟩ := by decide
  have hnext : (monthly [29] [2]).next ⟨2023, 2, 28, by decide⟩ ⟨2020, 2, 29, by decide⟩
      = .ok ⟨2024, 2, 29, by decide⟩ := by decide +kernel
  exact ⟨hparse, hnow, hnext, (next_stepFunction hparse hnow).1 _ hnext (by decide)⟩

end Rule
end Agenda
