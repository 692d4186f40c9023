import Agenda.Proofs.Recurrence.Searching
import Agenda.Proofs.Recurrence.Stepping
/-!
# Outcomes of a rule

What comes out when the next date of a rule is asked for: the first due date, or one of two errors, each
under a condition that does not mention the search.

* `Rule.next_cases` — the outcomes of any rule that a rule text can denote.
* `Rule.next_eq_ok_iff`, `Rule.next_calendar_iff`, `Rule.next_noMatchingDay_iff` — when each of them
  arises.
* `Rule.next_eq_next_of_le` — a reference day that is not after the present date does not matter.
-/

namespace Agenda
namespace Rule

/-- The months of a monthly rule. -/
def months : Rule → List Int
  | monthly _ months => months
  | _ => []

variable {rule : Rule} {now start : Date}

/-- The next date of a rule is the first due date, or it is missing because the calendar ends or because
a monthly rule is starved. -/
theorem next_cases (hrule : rule.WellFormed) (now start : Date) :
    (∃ d, rule.next now start = .ok d ∧ rule.FirstDue now start d)
      ∨ (∃ cause, rule.next now start = .error (.calendar cause) ∧ rule.LeavesCalendar now start)
      ∨ (rule.next now start = .error (.noMatchingDay rule.months)
        ∧ rule.Starved (Date.later now start)) := by
  cases rule with
  | daily interval =>
      rcases nextDaily_cases now start hrule.1 with ⟨d, hd, hdue⟩ | ⟨herror, hleaves⟩
      · exact Or.inl ⟨d, by simp [next, hd, Except.mapError], hdue⟩
      · exact Or.inr (Or.inl ⟨.beyondLastDay, by simp [next, herror, Except.mapError], hleaves⟩)
  | yearly =>
      rcases nextYearly_firstDue_cases now start with ⟨d, hd, hdue⟩ | ⟨herror, hleaves⟩
      · exact Or.inl ⟨d, by simp [next, hd, Except.mapError], hdue⟩
      · exact Or.inr (Or.inl ⟨.beyondLastYear 10000, by simp [next, herror, Except.mapError], hleaves⟩)
  | weekly weekdays =>
      rcases nextWeekly_cases now start hrule with ⟨d, hd, hdue⟩ | ⟨herror, hleaves⟩
      · exact Or.inl ⟨d, hd, hdue⟩
      · exact Or.inr (Or.inl ⟨_, herror, hleaves⟩)
  | monthly days months =>
      rcases nextMonthly_cases hrule.1 hrule.2 now start with
        ⟨d, hd, hdue⟩ | ⟨herror, hleaves⟩ | ⟨herror, hstarved⟩
      · exact Or.inl ⟨d, hd, hdue⟩
      · exact Or.inr (Or.inl ⟨_, herror, hleaves⟩)
      · exact Or.inr (Or.inr ⟨herror, hstarved⟩)

/-- A date comes out exactly when it is the first due date. -/
theorem next_eq_ok_iff (hrule : rule.WellFormed) {d : Date} :
    rule.next now start = .ok d ↔ rule.FirstDue now start d := by
  rcases next_cases hrule now start with ⟨e, he, hdue⟩ | ⟨cause, herror, hleaves⟩ |
    ⟨herror, hstarved⟩
  · rw [he]
    constructor
    · intro h
      obtain rfl := Except.ok.inj h
      exact hdue
    · intro hd
      rw [hdue.unique hd]
  · rw [herror]
    constructor
    · intro h
      cases h
    · intro hd
      exact absurd hleaves hd.not_leavesCalendar
  · rw [herror]
    constructor
    · intro h
      cases h
    · intro hd
      exact absurd hstarved hd.not_starved

/-- A calendar error comes out exactly when the search leaves the calendar. -/
theorem next_calendar_iff (hrule : rule.WellFormed) :
    (∃ cause, rule.next now start = .error (.calendar cause)) ↔ rule.LeavesCalendar now start := by
  rcases next_cases hrule now start with ⟨e, he, hdue⟩ | ⟨cause, herror, hleaves⟩ |
    ⟨herror, hstarved⟩
  · rw [he]
    constructor
    · rintro ⟨cause, h⟩
      cases h
    · intro hleaves
      exact absurd hleaves hdue.not_leavesCalendar
  · exact ⟨fun _ => hleaves, fun _ => ⟨cause, herror⟩⟩
  · rw [herror]
    constructor
    · rintro ⟨cause, h⟩
      cases h
    · intro hleaves
      exact absurd hstarved hleaves.not_starved

/-- A missing day is reported exactly when a monthly rule is starved. -/
theorem next_noMatchingDay_iff (hrule : rule.WellFormed) :
    rule.next now start = .error (.noMatchingDay rule.months)
      ↔ rule.Starved (Date.later now start) := by
  rcases next_cases hrule now start with ⟨e, he, hdue⟩ | ⟨cause, herror, hleaves⟩ |
    ⟨herror, hstarved⟩
  · rw [he]
    constructor
    · intro h
      cases h
    · intro hstarved
      exact absurd hstarved hdue.not_starved
  · rw [herror]
    constructor
    · intro h
      cases h
    · intro hstarved
      exact absurd hstarved hleaves.not_starved
  · exact ⟨fun _ => hstarved, fun _ => herror⟩

/-- A next date comes after the reference day and after the present date. -/
theorem lt_of_next_eq_ok (hrule : rule.WellFormed) {d : Date} (hd : rule.next now start = .ok d) :
    now < d ∧ start < d := by
  have hdue := (next_eq_ok_iff hrule).1 hd
  refine ⟨hdue.after, ?_⟩
  rw [Date.lt_iff]
  have hday := hdue.due
  cases rule with
  | daily interval =>
      obtain ⟨j, hj⟩ := dueOn_daily_iff.1 hday
      have hpositive : 1 ≤ interval := hrule.1
      have hnonneg : 0 ≤ (j : Int) * interval := by positivity
      omega
  | yearly =>
      obtain ⟨year, hyear, hnumber⟩ := hday
      rw [hnumber, Date.dayNumber_eq]
      exact dayNumberOf_lt_of_year_lt start.one_le_year start.month_bounds start.day_bounds.2
        (start.anniversary_bounds year).2.1 hyear
  | weekly weekdays => exact hday.1
  | monthly days months =>
      obtain ⟨e, hnumber, hstart, -⟩ := hday
      rw [← hnumber]
      exact hstart

/-- A reference day that is not after the present date does not matter, neither for the date that comes
out nor for the error. -/
theorem next_eq_next_of_le (hrule : rule.WellFormed) (hnow : now ≤ start) :
    rule.next now start = rule.next start start := by
  have hbase : Date.later now start = Date.later start start := by
    rw [Date.later_eq_right hnow, Date.later_eq_right (Nat.le_refl start.dayNumber)]
  cases rule with
  | daily interval =>
      -- The first step passes the present date and with it the reference day.
      have hpositive : 1 ≤ interval := hrule.1
      rw [Date.le_iff] at hnow
      show (nextDaily now start interval).mapError NextError.calendar
        = (nextDaily start start interval).mapError NextError.calendar
      rw [nextDaily_eq_addDays now start hpositive, nextDaily_eq_addDays start start hpositive,
        firstAfter_eq_self (by omega), firstAfter_eq_self (by omega)]
  | yearly =>
      have hpast : ∀ next, start.addYears 1 = .ok next → ¬ next ≤ now ∧ ¬ next ≤ start := by
        intro next hnext
        have hyear := Date.year_of_addYears hnext
        have hlt : start < next := Date.lt_of_year_lt (by omega)
        rw [Date.lt_iff] at hlt
        rw [Date.le_iff] at hnow
        rw [Date.le_iff, Date.le_iff]
        omega
      show (nextYearly now start).mapError NextError.calendar
        = (nextYearly start start).mapError NextError.calendar
      unfold nextYearly
      split
      · rfl
      · next next hnext => rw [if_neg (hpast next hnext).1, if_neg (hpast next hnext).2]
  | weekly weekdays =>
      show nextWeekly now start weekdays = nextWeekly start start weekdays
      unfold nextWeekly
      rw [hbase]
  | monthly days months =>
      show nextMonthly now start days months = nextMonthly start start days months
      unfold nextMonthly
      rw [hbase]

end Rule
end Agenda
