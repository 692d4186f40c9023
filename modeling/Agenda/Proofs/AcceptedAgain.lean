import Agenda.Proofs.Entries
import Agenda.Proofs.Recurrence.MonthlyWindow
/-!
# Accepted entries that are submitted again

What becomes of an accepted entry that is submitted again on the same day.  If its date was kept, it is
accepted as it is.  If its date had passed and was moved to the next date of its rule, the rule is asked for a
further date from there, and it may have none.

* `Rule.NeedsLeapYear` — a monthly rule that is about 29 February alone, or about no date at all.
* `Rule.starved_iff_of_next` — such a rule is starved after each of its own dates, and no other rule is.
* `Entry.normalize_inPlace` — an entry that is in order and not dated in the past is accepted as it is or not
  at all.
* `Entry.SentBack` — all outcomes of a second submission; `Entry.normalize_sentBack` — every accepted entry
  has one of them.
-/

namespace Agenda

/-! ## The date after a next date -/

namespace Rule

/-- The rule is a monthly one, and none of its days fits into one of its months in a common year. -/
def NeedsLeapYear : Rule → Prop
  | monthly days months => ¬ FitsCommonYear days months
  | _ => False

/-- After a date that it has led to, a rule is starved exactly when it needs a leap year. -/
theorem starved_iff_of_next {rule : Rule} {now start d : Date} (hrule : rule.WellFormed)
    (hnext : rule.next now start = .ok d) : rule.Starved d ↔ rule.NeedsLeapYear := by
  cases rule with
  | daily interval => exact Iff.rfl
  | yearly => exact Iff.rfl
  | weekly weekdays => exact Iff.rfl
  | monthly days months =>
      constructor
      · intro hstarved hfits
        exact not_starved_of_fits hrule.1 hrule.2 hfits d hstarved
      · intro hnot
        have hdue := (next_eq_ok_iff hrule).1 hnext
        have hlisted := (dueOn_monthly_iff.1 ⟨hdue.due, hdue.after⟩).2
        have hleap := (leapDay_of_listed hnot hlisted).1
        -- The calendar does not end with a leap year.
        have hyear : d.year ≤ 9998 := by
          have hfour := (isLeapYear_iff.1 hleap.isLeapYear).1
          have hlast := d.year_le
          omega
        rw [starved_iff_of_not_fits hnot hyear]
        rintro ⟨-, e, he, hafter, heyear⟩
        obtain rfl := eq_of_isLeapDay hleap he (Or.inl rfl) heyear
        exact Nat.lt_irrefl d.dayNumber hafter

end Rule

namespace Entry

variable {today d : Date} {entry : Entry}

/-! ## A second submission -/

/-- The entry repeats, and the date that it is submitted with has passed. -/
def Moves (today : Date) (entry : Entry) : Prop :=
  entry.rule ≠ "" ∧ ∃ d, Compact.parse (entry.dateOn today) = .ok d ∧ d < today

/-- What becomes of an entry that is submitted on a day on which it has been moved or kept.

It is never changed.  If it was kept, it is accepted.  If it was moved, it is accepted as long as its rule has
a further date: it is refused for its months if the rule needs a leap year, and for the calendar if the day on
which it would be due next lies beyond it. -/
structure SentBack (today : Date) (entry : Entry) (wasMoved : Prop) : Prop where
  unchanged : ∀ again, entry.normalize today = .ok again → again = entry
  kept : ¬ wasMoved → entry.normalize today = .ok entry
  moved : wasMoved → ∃ rule d, RuleText.parse entry.rule = .ok rule ∧ Compact.IsDateText entry.date d ∧ today < d
    ∧ (entry.normalize today = .error (.repetition (.noMatchingDay rule.months)) ↔ rule.NeedsLeapYear)
    ∧ ((∃ cause, entry.normalize today
        = .error (.repetition (.beyondCalendar (Text.trim entry.rule.toList) d cause)))
      ↔ rule.LeavesCalendar d d)
    ∧ (entry.normalize today = .ok entry ↔ ¬ rule.NeedsLeapYear ∧ ¬ rule.LeavesCalendar d d)

theorem ne_empty_of_isDateText {text : String} (htext : Compact.IsDateText text d) : text ≠ "" := by
  rintro rfl
  have hread := htext.read
  cases hread

/-- An entry with a title and a compact date that has not passed is accepted as it is, if it does not repeat or
if its rule has a next date; otherwise it is refused for the missing next date. -/
theorem normalize_inPlace (htitle : entry.title ≠ "") (hdate : Compact.IsDateText entry.date d)
    (hday : today ≤ d) :
    entry.normalize today
      = if entry.rule = "" then .ok entry
        else ((nextDate today entry.date entry.rule).map fun _ => entry).mapError .repetition := by
  have hsubmitted : Compact.parse (entry.dateOn today) = .ok d := by
    rw [dateOn, if_neg (ne_empty_of_isDateText hdate)]
    exact hdate.read
  have hstays : ∀ later, { entry with date := dateFrom today d later } = entry := by
    intro later
    have hnotPast : ¬ d < today := by
      rw [Date.le_iff] at hday
      rw [Date.lt_iff]
      omega
    rw [dateFrom, if_neg hnotPast, hdate.written]
  by_cases hrule : entry.rule = ""
  · rw [if_pos hrule, normalize_oneOff htitle hsubmitted hrule, hstays]
  · rw [if_neg hrule, normalize_repeating htitle hsubmitted hrule, hdate.written]
    simp only [hstays]

/-- If an entry with a title and a compact date that has not passed is accepted, then as it is. -/
theorem eq_of_normalize_inPlace {again : Entry} (htitle : entry.title ≠ "") (hdate : Compact.IsDateText entry.date d)
    (hday : today ≤ d) (hok : entry.normalize today = .ok again) : again = entry := by
  rw [normalize_inPlace htitle hdate hday] at hok
  split at hok
  · exact (Except.ok.inj hok).symm
  · rw [mapError_eq_ok_iff, map_eq_ok_iff] at hok
    obtain ⟨next, -, hsame⟩ := hok
    exact hsame.symm

/-- An entry that repeats, and whose compact date has not passed, is accepted if its rule has a next date after this
date. -/
theorem normalize_inPlace_repeating {rule : Rule} (htitle : entry.title ≠ "") (hdate : Compact.IsDateText entry.date d)
    (hday : today ≤ d) (hrule : RuleText.parse entry.rule = .ok rule) :
    entry.normalize today = ((rule.next d d).map fun _ => entry).mapError fun cause =>
      .repetition (cause.inText (Text.trim entry.rule.toList) d) := by
  have hne : entry.rule ≠ "" := by
    intro hempty
    rw [hempty] at hrule
    cases hrule
  rw [normalize_inPlace htitle hdate hday, if_neg hne, nextDate_eq hdate.read hrule,
    Rule.next_eq_next_of_le (RuleText.wellFormed_of_parse hrule) hday]
  cases rule.next d d <;> rfl

/-- An entry that was kept is accepted once more. -/
theorem SentBack.of_kept {wasMoved : Prop} (htitle : entry.title ≠ "") (hdate : Compact.IsDateText entry.date d)
    (hday : today ≤ d) (hnext : entry.rule ≠ "" → ∃ next, nextDate today entry.date entry.rule = .ok next)
    (hmoved : ¬ wasMoved) : entry.SentBack today wasMoved := by
  have hagain : entry.normalize today = .ok entry := by
    rw [normalize_inPlace htitle hdate hday]
    by_cases hrule : entry.rule = ""
    · rw [if_pos hrule]
    · obtain ⟨next, hnext⟩ := hnext hrule
      rw [if_neg hrule, hnext]
      rfl
  exact ⟨fun again => eq_of_normalize_inPlace htitle hdate hday, fun _ => hagain, fun h => absurd h hmoved⟩

/-- An entry that was moved to the next date of its rule is accepted once more unless its rule ends there. -/
theorem SentBack.of_moved {wasMoved : Prop} {start : String} (htoday : 1000 ≤ today.year)
    (htitle : entry.title ≠ "") (hnext : nextDate today start entry.rule = .ok entry.date)
    (hmoved : wasMoved) : entry.SentBack today wasMoved := by
  obtain ⟨rule, startDate, d, hrule, -, hfirst, hwritten⟩ := exists_next_of_nextDate hnext
  have hwf := RuleText.wellFormed_of_parse hrule
  have hafter := (Rule.lt_of_next_eq_ok hwf hfirst).1
  have hday : today ≤ d := Nat.le_of_lt hafter
  have hdate : Compact.IsDateText entry.date d := by
    rw [hwritten]
    exact isDateText_write_of_le htoday hday
  have hself : Date.later d d = d := Date.later_eq_right (Nat.le_refl d.dayNumber)
  have hneeds : rule.Starved (Date.later d d) ↔ rule.NeedsLeapYear := by
    rw [hself]
    exact Rule.starved_iff_of_next hwf hfirst
  -- The second submission asks for the next date after the first one.
  have hagain := normalize_inPlace_repeating htitle hdate hday hrule
  refine ⟨fun again => eq_of_normalize_inPlace htitle hdate hday, fun h => absurd hmoved h,
    fun _ => ⟨rule, d, hrule, hdate, hafter, ?_⟩⟩
  rcases Rule.next_cases hwf d d with ⟨e, he, hdue⟩ | ⟨cause, herror, hleaves⟩ | ⟨herror, hstarved⟩
  · have hstays : ¬ rule.LeavesCalendar d d := hdue.not_leavesCalendar
    have hfits : ¬ rule.NeedsLeapYear := fun h => hdue.not_starved (hneeds.2 h)
    have hkept : entry.normalize today = .ok entry := by
      rw [hagain, he]
      rfl
    simp [hkept, hstays, hfits]
  · have hfits : ¬ rule.NeedsLeapYear := fun h => hleaves.not_starved (hneeds.2 h)
    have hrefused : entry.normalize today
        = .error (.repetition (.beyondCalendar (Text.trim entry.rule.toList) d cause)) := by
      rw [hagain, herror]
      rfl
    simp [hrefused, hleaves, hfits]
  · have hstays : ¬ rule.LeavesCalendar d d := fun h => h.not_starved hstarved
    have hleap := hneeds.1 hstarved
    have hrefused : entry.normalize today = .error (.repetition (.noMatchingDay rule.months)) := by
      rw [hagain, herror]
      rfl
    simp [hrefused, hstays, hleap]

/-- Whatever is accepted on a day of year 1000 or later is not changed when it is submitted again on this day.
It is accepted again, except that an entry whose date was moved may have no further date. -/
theorem normalize_sentBack {accepted : Entry} (htoday : 1000 ≤ today.year)
    (haccepted : entry.normalize today = .ok accepted) : accepted.SentBack today (entry.Moves today) := by
  obtain ⟨-, e, he, hday⟩ := inOrder_of_normalize htoday haccepted
  obtain ⟨htitle, d, hdate⟩ := exists_date_of_normalize haccepted
  by_cases hrule : entry.rule = ""
  · have hmoves : ¬ entry.Moves today := fun h => h.1 hrule
    rw [normalize_oneOff htitle hdate hrule] at haccepted
    obtain rfl := Except.ok.inj haccepted
    exact SentBack.of_kept htitle he hday (fun h => absurd hrule h) hmoves
  · rw [normalize_repeating htitle hdate hrule, mapError_eq_ok_iff, map_eq_ok_iff] at haccepted
    obtain ⟨next, hnext, rfl⟩ := haccepted
    by_cases hpast : d < today
    · have hmoved : nextDate today (Compact.write d) entry.rule = .ok (dateFrom today d next) := by
        rw [dateFrom, if_pos hpast]
        exact hnext
      exact SentBack.of_moved htoday htitle hmoved ⟨hrule, d, hdate, hpast⟩
    · have hkept : nextDate today (dateFrom today d next) entry.rule = .ok next := by
        rw [dateFrom, if_neg hpast]
        exact hnext
      refine SentBack.of_kept htitle he hday (fun _ => ⟨next, hkept⟩) ?_
      rintro ⟨-, d', hdate', hpast'⟩
      rw [hdate] at hdate'
      obtain rfl := Except.ok.inj hdate'
      exact hpast hpast'

end Entry
end Agenda
