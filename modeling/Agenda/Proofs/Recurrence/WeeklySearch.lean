import Agenda.Proofs.Recurrence.Outcomes
import Agenda.Proofs.Recurrence.RuleGrammar
/-!
# The week of a weekly search

What a weekly rule looks for, said with nothing but the calendar: the first day after the base date that falls
on a listed weekday.  Days are given by their numbers, so that the day which would come next after the end of
the calendar can be named too.

* `IsNextListed` — the first day after a base date that falls on a listed weekday.
* `isNextListed_later_iff`, `isNextListed_dayNumber_iff` — it is the first due day of a weekly rule and, within
  the calendar, the earliest listed date after the base date.
* `IsNextListed.le_add_seven`, `IsNextListed.eq_add_seven_iff` — it lies in the week after the base date, at its
  end when no other weekday than that of the base date is listed.
* `nextWeekly_earliest` — the search ends there, and fails exactly if the calendar does not have this day.
-/

namespace Agenda

/-- The day is the first one after a base date that falls on a listed weekday. -/
def IsNextListed (weekdays : List Int) (base : Date) (n : Nat) : Prop :=
  IsLeast {m | base.dayNumber < m ∧ (weekdayOf m : Int) ∈ weekdays} n

/-! ## The week after a day -/

/-- Every weekday comes round within the week after a day. -/
theorem exists_weekdayOf_add (n : Nat) {w : Int} (hw : IsWeekday w) :
    ∃ j, 1 ≤ j ∧ j ≤ 7 ∧ (weekdayOf (n + j) : Int) = w := by
  obtain ⟨hlow, hhigh⟩ := hw
  refine ⟨((w - weekdayOf n - 1) % 7 + 1).toNat, ?_, ?_, ?_⟩ <;> unfold weekdayOf <;> omega

/-- A day falls on the weekday of an earlier one when there are whole weeks between them. -/
theorem weekdayOf_add_eq_iff (n j : Nat) : weekdayOf (n + j) = weekdayOf n ↔ j % 7 = 0 := by
  unfold weekdayOf
  omega

/-- An ascending list all of whose entries are the same has one entry. -/
theorem eq_singleton_of_ascending {p : Int → Prop} {ns : List Int} {w : Int} (hns : AscendingOf p ns)
    (hall : ∀ n ∈ ns, n = w) : ns = [w] := by
  obtain ⟨hne, hsorted, -⟩ := hns
  cases ns with
  | nil => exact absurd rfl hne
  | cons n rest =>
      have hn : n = w := hall n (by simp)
      cases rest with
      | nil => rw [hn]
      | cons m rest =>
          have hlt : n < m := (List.pairwise_cons.1 hsorted).1 m (by simp)
          have hm : m = w := hall m (by simp)
          omega

/-! ## The first listed day -/

section Listed

variable {weekdays : List Int} {base : Date} {n : Nat}

/-- The first listed day after the base date is the first due day of a weekly rule. -/
theorem isNextListed_later_iff {now start : Date} :
    IsNextListed weekdays (Date.later now start) n
      ↔ IsLeast {m | (Rule.weekly weekdays).DueOn start m ∧ now.dayNumber < m} n := by
  have hsame : {m | (Date.later now start).dayNumber < m ∧ (weekdayOf m : Int) ∈ weekdays}
      = {m | (Rule.weekly weekdays).DueOn start m ∧ now.dayNumber < m} := by
    ext m
    rw [Set.mem_ofPred_eq, Set.mem_ofPred_eq, Date.dayNumber_later_lt_iff]
    constructor
    · rintro ⟨⟨hnow, hstart⟩, hlisted⟩
      exact ⟨⟨hstart, hlisted⟩, hnow⟩
    · rintro ⟨⟨hstart, hlisted⟩, hnow⟩
      exact ⟨⟨hnow, hstart⟩, hlisted⟩
  rw [IsNextListed, hsame]

/-- Within the calendar the first listed day is the earliest listed date. -/
theorem isNextListed_dayNumber_iff {d : Date} :
    IsNextListed weekdays base d.dayNumber
      ↔ base < d ∧ WeekdayListed weekdays d
        ∧ ∀ e, base < e → WeekdayListed weekdays e → d ≤ e := by
  constructor
  · rintro ⟨⟨hafter, hlisted⟩, hleast⟩
    exact ⟨hafter, hlisted, fun e he hlistedE => hleast ⟨he, hlistedE⟩⟩
  · rintro ⟨hafter, hlisted, hleast⟩
    refine ⟨⟨hafter, hlisted⟩, ?_⟩
    rintro m ⟨hm, hlistedM⟩
    have hlast := d.dayNumber_le_lastDayNumber
    -- A listed day beyond the calendar comes after all dates.
    by_cases hinside : m ≤ lastDayNumber
    · obtain ⟨e, rfl⟩ := Date.exists_dayNumber_eq (n := m) (by omega) hinside
      exact hleast e hm hlistedM
    · omega

namespace IsNextListed

/-- A listed weekday comes round within a week. -/
theorem le_add_seven (hweekdays : AscendingOf IsWeekday weekdays) (hn : IsNextListed weekdays base n) :
    n ≤ base.dayNumber + 7 := by
  obtain ⟨w, hw⟩ := List.exists_mem_of_ne_nil weekdays hweekdays.1
  obtain ⟨j, hlow, hhigh, hday⟩ := exists_weekdayOf_add base.dayNumber (hweekdays.2.2 w hw)
  have hle : n ≤ base.dayNumber + j := hn.2 ⟨by omega, by rw [hday]; exact hw⟩
  omega

/-- The whole week has to be waited for when no other weekday than that of the base date is listed. -/
theorem eq_add_seven_iff (hweekdays : AscendingOf IsWeekday weekdays) (hn : IsNextListed weekdays base n) :
    n = base.dayNumber + 7 ↔ weekdays = [(base.weekday : Int)] := by
  have hbase : weekdayOf base.dayNumber = base.weekday := rfl
  constructor
  · rintro rfl
    refine eq_singleton_of_ascending hweekdays fun w hw => ?_
    -- Any listed weekday comes round in the week, but not before its last day.
    obtain ⟨j, hlow, hhigh, hday⟩ := exists_weekdayOf_add base.dayNumber (hweekdays.2.2 w hw)
    have hle : base.dayNumber + 7 ≤ base.dayNumber + j := hn.2 ⟨by omega, by rw [hday]; exact hw⟩
    have hseven : j = 7 := by omega
    rw [← hday, ← hbase, (weekdayOf_add_eq_iff base.dayNumber j).2 (by omega)]
  · rintro rfl
    have hle := hn.le_add_seven hweekdays
    obtain ⟨hafter, hlisted⟩ := hn.1
    obtain ⟨j, rfl⟩ : ∃ j, n = base.dayNumber + j := ⟨n - base.dayNumber, by omega⟩
    rw [List.mem_singleton, ← hbase, Int.natCast_inj, weekdayOf_add_eq_iff] at hlisted
    omega

end IsNextListed

/-! ## The search -/

section Search

variable (hweekdays : AscendingOf IsWeekday weekdays) {now start : Date}
include hweekdays

theorem nextWeekly_eq_ok_iff {d : Date} :
    nextWeekly now start weekdays = .ok d ↔ IsNextListed weekdays (Date.later now start) d.dayNumber := by
  have hwf : (Rule.weekly weekdays).WellFormed := hweekdays
  rw [isNextListed_later_iff]
  refine (Rule.next_eq_ok_iff hwf).trans ⟨fun hd => ?_, fun hd => ?_⟩
  · exact ⟨⟨hd.due, hd.after⟩, fun m hm => hd.least m hm.1 hm.2⟩
  · exact ⟨hd.1.1, hd.1.2, fun m hdue hm => hd.2 ⟨hdue, hm⟩, trivial⟩

theorem nextWeekly_eq_error_iff :
    nextWeekly now start weekdays = .error (.calendar .beyondLastDay)
      ↔ ∃ n, IsNextListed weekdays (Date.later now start) n ∧ lastDayNumber < n := by
  rcases nextWeekly_cases now start hweekdays with ⟨d, hd, -⟩ | ⟨herror, n, hleast, hbeyond⟩
  · rw [hd]
    refine ⟨nofun, ?_⟩
    rintro ⟨n, hn, hbeyond⟩
    have hlast := d.dayNumber_le_lastDayNumber
    have hsame : d.dayNumber = n := ((nextWeekly_eq_ok_iff hweekdays).1 hd).unique hn
    omega
  · exact ⟨fun _ => ⟨n, isNextListed_later_iff.2 hleast, hbeyond⟩, fun _ => herror⟩

end Search
end Listed

/-- For a rule that a text denotes, the search ends at the earliest date after the base date that falls on a
listed weekday.  This day is at most seven days away, and exactly seven when no other weekday than that of the
base date is listed.  The search fails exactly if the day lies beyond the calendar. -/
theorem nextWeekly_earliest {text : String} {weekdays : List Int}
    (hrule : RuleText.parse text = .ok (.weekly weekdays)) (now start : Date) :
    (∀ d, nextWeekly now start weekdays = .ok d
      ↔ Date.later now start < d ∧ WeekdayListed weekdays d
        ∧ ∀ e, Date.later now start < e → WeekdayListed weekdays e → d ≤ e)
    ∧ ∃ n, IsNextListed weekdays (Date.later now start) n
      ∧ n ≤ (Date.later now start).dayNumber + 7
      ∧ (n = (Date.later now start).dayNumber + 7 ↔ weekdays = [((Date.later now start).weekday : Int)])
      ∧ (n ≤ lastDayNumber → ∃ d, nextWeekly now start weekdays = .ok d ∧ d.dayNumber = n)
      ∧ (nextWeekly now start weekdays = .error (.calendar .beyondLastDay) ↔ lastDayNumber < n) := by
  have hweekdays : AscendingOf IsWeekday weekdays := RuleText.wellFormed_of_parse hrule
  refine ⟨fun d => (nextWeekly_eq_ok_iff hweekdays).trans isNextListed_dayNumber_iff, ?_⟩
  obtain ⟨k, -, hleast⟩ := exists_weeklyStep now start hweekdays
  have hn := isNextListed_later_iff.2 hleast
  refine ⟨_, hn, hn.le_add_seven hweekdays, hn.eq_add_seven_iff hweekdays, ?_, ?_⟩
  · intro hinside
    have hafter := hn.1.1
    obtain ⟨d, hd⟩ := Date.exists_dayNumber_eq (by omega) hinside
    rw [← hd] at hn
    exact ⟨d, (nextWeekly_eq_ok_iff hweekdays).2 hn, hd⟩
  · rw [nextWeekly_eq_error_iff hweekdays]
    constructor
    · rintro ⟨m, hm, hbeyond⟩
      rw [← hm.unique hn]
      exact hbeyond
    · intro hbeyond
      exact ⟨_, hn, hbeyond⟩

/-- From Friday 26 January 2024 the rule for Mondays and Fridays leads to the Monday, and the rule for Fridays
alone to the next Friday.  After the last Friday of the calendar, which ends on it, there is no Monday. -/
theorem nextWeekly_earliest_fridays :
    let friday : Date := ⟨2024, 1, 26, by decide⟩
    let last : Date := ⟨9999, 12, 31, by decide⟩
    RuleText.parse "w 5,1" = .ok (.weekly [1, 5])
      ∧ nextWeekly friday friday [1, 5] = .ok ⟨2024, 1, 29, by decide⟩
      ∧ (∀ e, friday < e → WeekdayListed [1, 5] e → (⟨2024, 1, 29, by decide⟩ : Date) ≤ e)
      ∧ RuleText.parse "w 5" = .ok (.weekly [5])
      ∧ (∃ n, IsNextListed [5] friday n ∧ n = friday.dayNumber + 7)
      ∧ nextWeekly friday friday [5] = .ok ⟨2024, 2, 2, by decide⟩
      ∧ nextWeekly last friday [1, 5] = .error (.calendar .beyondLastDay)
      ∧ ∃ n, IsNextListed [1, 5] last n ∧ lastDayNumber < n := by
  intro friday last
  have hparse : RuleText.parse "w 5,1" = .ok (.weekly [1, 5]) := by decide +kernel
  have hparse' : RuleText.parse "w 5" = .ok (.weekly [5]) := by decide +kernel
  have hmonday : nextWeekly friday friday [1, 5] = .ok ⟨2024, 1, 29, by decide⟩ := by decide +kernel
  have hend : nextWeekly last friday [1, 5] = .error (.calendar .beyondLastDay) := by decide +kernel
  have hbase : Date.later friday friday = friday := by decide +kernel
  have hbase' : Date.later last friday = last := by decide +kernel
  have honly : [(5 : Int)] = [(friday.weekday : Int)] := by decide +kernel
  obtain ⟨hearliest, -⟩ := nextWeekly_earliest hparse friday friday
  obtain ⟨-, n, hn, -, hseven, -, -⟩ := nextWeekly_earliest hparse' friday friday
  obtain ⟨-, m, hm, -, -, -, hfails⟩ := nextWeekly_earliest hparse last friday
  rw [hbase] at hearliest hn hseven
  rw [hbase'] at hm
  exact ⟨hparse, hmonday, ((hearliest _).1 hmonday).2.2, hparse', ⟨n, hn, hseven.2 honly⟩,
    by decide +kernel, hend, m, hm, hfails.1 hend⟩

end Agenda
