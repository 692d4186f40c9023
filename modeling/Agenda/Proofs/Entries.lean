import Agenda.Entry
import Agenda.Proofs.Recurrence.Errors
import Agenda.Proofs.Recurrence.Runs
/-!
# Accepted entries

What accepting a submitted entry gives, in terms of the date that its text denotes.

* `Entry.normalize_oneOff`, `Entry.normalize_repeating` — the accepted form of an entry with a readable
  date.
* `Entry.cases_of_normalize` — all that acceptance says; `Entry.eq_of_normalize` — nothing but the date
  changes.
* `Entry.InOrder` — a title, a compact date that is read back, and a rule that can be read if there is one.
* `Entry.inOrder_of_normalize` — an accepted entry is in order, and its date is not in the past.
* `Entry.normalize_agrees` — an entry that repeats is accepted exactly when its date and its rule have a
  next date, as long as the date is read back after it has been written.
-/

namespace Agenda

/-! ## Texts that denote the same date -/

/-- The next date depends on the start text only through the date that it denotes. -/
theorem nextDate_eq_of_parse_eq {start start' rule : String} {now d : Date}
    (hstart : Compact.parse start = .ok d) (hstart' : Compact.parse start' = .ok d) :
    nextDate now start rule = nextDate now start' rule := by
  unfold nextDate
  rw [hstart, hstart']

/-- A next date is the text of a date after the reference day and after the present date, and the rule text
denotes a rule. -/
theorem exists_date_of_nextDate {now : Date} {start rule next : String}
    (hnext : nextDate now start rule = .ok next) :
    (∃ parsed, RuleText.parse rule = .ok parsed)
      ∧ ∃ startDate d, Compact.parse start = .ok startDate ∧ next = Compact.write d ∧ now < d
        ∧ startDate < d := by
  obtain ⟨parsed, startDate, d, hparsed, hstart, hd, hwritten⟩ := exists_next_of_nextDate hnext
  exact ⟨⟨parsed, hparsed⟩, startDate, d, hstart, hwritten,
    Rule.lt_of_next_eq_ok (RuleText.wellFormed_of_parse hparsed) hd⟩

namespace Entry

/-! ## The accepted form -/

/-- The date text that is looked at: an entry that is submitted without one is meant for today. -/
def dateOn (today : Date) (entry : Entry) : String :=
  if entry.date = "" then Compact.write today else entry.date

/-- The date that an accepted entry has moved to when its own date lies in the past. -/
def dateFrom (today d : Date) (otherwise : String) : String :=
  if d < today then otherwise else Compact.write d

section

variable {today d : Date} {entry : Entry} (htitle : entry.title ≠ "")
  (hdate : Compact.parse (entry.dateOn today) = .ok d)
include htitle hdate

/-- An entry that does not repeat is accepted at its date, or at today's if that has passed. -/
theorem normalize_oneOff (hrule : entry.rule = "") :
    entry.normalize today = .ok { entry with date := dateFrom today d (Compact.write today) } := by
  unfold dateOn at hdate
  unfold normalize dateFrom
  simp only [if_neg htitle, hdate, following, if_pos hrule, Option.getD_none]
  split <;> rfl

/-- An entry that repeats needs a next date from its date as it is written, and moves to it if its own has
passed. -/
theorem normalize_repeating (hrule : entry.rule ≠ "") :
    entry.normalize today
      = ((nextDate today (Compact.write d) entry.rule).map fun next =>
          { entry with date := dateFrom today d next }).mapError .repetition := by
  unfold dateOn at hdate
  unfold normalize dateFrom
  simp only [if_neg htitle, hdate, following, if_neg hrule]
  cases nextDate today (Compact.write d) entry.rule with
  | error cause => rfl
  | ok next =>
      simp only [Option.getD_some]
      split <;> rfl

end

/-- An entry without a title or without a readable date is refused for that. -/
theorem normalize_cases (today : Date) (entry : Entry) :
    entry.normalize today = .error .missingTitle ∨ entry.normalize today = .error .invalidDate
      ∨ (entry.title ≠ "" ∧ ∃ d, Compact.parse (entry.dateOn today) = .ok d) := by
  unfold normalize
  by_cases htitle : entry.title = ""
  · exact Or.inl (if_pos htitle)
  · rw [if_neg htitle]
    cases hdate : Compact.parse (entry.dateOn today) with
    | ok d => exact Or.inr (Or.inr ⟨htitle, d, rfl⟩)
    | error cause =>
        unfold dateOn at hdate
        simp [hdate]

/-- Only an entry with a title and a readable date is accepted. -/
theorem exists_date_of_normalize {today : Date} {entry accepted : Entry}
    (haccepted : entry.normalize today = .ok accepted) :
    entry.title ≠ "" ∧ ∃ d, Compact.parse (entry.dateOn today) = .ok d := by
  rcases normalize_cases today entry with hrefused | hrefused | hdated
  · cases hrefused.symm.trans haccepted
  · cases hrefused.symm.trans haccepted
  · exact hdated

/-- An entry is never refused for a weekly rule without a weekday. -/
theorem normalize_ne_noWeekday (today : Date) (entry : Entry) :
    entry.normalize today ≠ .error (.repetition .noWeekday) := by
  intro h
  rcases normalize_cases today entry with hrefused | hrefused | ⟨htitle, d, hdate⟩
  · cases hrefused.symm.trans h
  · cases hrefused.symm.trans h
  · by_cases hrule : entry.rule = ""
    · cases (normalize_oneOff htitle hdate hrule).symm.trans h
    · rw [normalize_repeating htitle hdate hrule] at h
      cases hnext : nextDate today (Compact.write d) entry.rule with
      | ok next =>
          rw [hnext] at h
          cases h
      | error cause =>
          rw [hnext] at h
          cases h
          exact nextDate_ne_noWeekday today (Compact.write d) entry.rule hnext

/-- An accepted entry keeps its texts, and its date has moved to today's or to the next one if it had
passed. -/
theorem cases_of_normalize {today : Date} {entry accepted : Entry}
    (haccepted : entry.normalize today = .ok accepted) :
    entry.title ≠ "" ∧ ∃ d later, accepted = { entry with date := dateFrom today d later }
      ∧ ((entry.rule = "" ∧ later = Compact.write today)
        ∨ (entry.rule ≠ "" ∧ nextDate today (Compact.write d) entry.rule = .ok later)) := by
  obtain ⟨htitle, d, hdate⟩ := exists_date_of_normalize haccepted
  refine ⟨htitle, d, ?_⟩
  by_cases hrule : entry.rule = ""
  · rw [normalize_oneOff htitle hdate hrule] at haccepted
    exact ⟨_, (Except.ok.inj haccepted).symm, Or.inl ⟨hrule, rfl⟩⟩
  · rw [normalize_repeating htitle hdate hrule, mapError_eq_ok_iff, map_eq_ok_iff] at haccepted
    obtain ⟨next, hnext, hform⟩ := haccepted
    exact ⟨next, hform.symm, Or.inr ⟨hrule, hnext⟩⟩

/-- Accepting an entry changes nothing but its date. -/
theorem eq_of_normalize {today : Date} {entry accepted : Entry}
    (haccepted : entry.normalize today = .ok accepted) :
    accepted = { entry with date := accepted.date } := by
  obtain ⟨-, d, later, rfl, -⟩ := cases_of_normalize haccepted
  rfl

/-! ## Entries in order -/

/-- An entry as the table is meant to keep it: it has a title, its date is eight digits that form a date, and
its rule, if it has one, can be read. -/
structure InOrder (entry : Entry) : Prop where
  title : entry.title ≠ ""
  date : ∃ d, Compact.IsDateText entry.date d
  rule : entry.rule = "" ∨ ∃ parsed, RuleText.parse entry.rule = .ok parsed

theorem isDateText_write_of_le {today d : Date} (htoday : 1000 ≤ today.year) (hle : today ≤ d) :
    Compact.IsDateText (Compact.write d) d := by
  have hyear := Date.year_le_of_le hle
  exact Compact.isDateText_write (by omega)

/-- A next date is a date text after the reference day. -/
theorem isDateText_of_nextDate {today : Date} {start rule next : String} (htoday : 1000 ≤ today.year)
    (hnext : nextDate today start rule = .ok next) : ∃ d, Compact.IsDateText next d ∧ today < d := by
  obtain ⟨-, -, d, -, rfl, hafter, -⟩ := exists_date_of_nextDate hnext
  exact ⟨d, isDateText_write_of_le htoday (Nat.le_of_lt hafter), hafter⟩

/-- The date that an accepted entry has is not in the past, if the one that it may move to is not. -/
theorem exists_dateFrom {today d : Date} {otherwise : String} (htoday : 1000 ≤ today.year)
    (hother : ∃ e, Compact.IsDateText otherwise e ∧ today ≤ e) :
    ∃ e, Compact.IsDateText (dateFrom today d otherwise) e ∧ today ≤ e := by
  unfold dateFrom
  by_cases hpast : d < today
  · rw [if_pos hpast]
    exact hother
  · rw [if_neg hpast]
    have hle : today ≤ d := by
      rw [Date.lt_iff] at hpast
      rw [Date.le_iff]
      omega
    exact ⟨d, isDateText_write_of_le htoday hle, hle⟩

/-- An accepted entry is in order and not dated in the past. -/
theorem inOrder_of_normalize {today : Date} {entry accepted : Entry} (htoday : 1000 ≤ today.year)
    (haccepted : entry.normalize today = .ok accepted) :
    accepted.InOrder ∧ ∃ d, Compact.IsDateText accepted.date d ∧ today ≤ d := by
  obtain ⟨htitle, d, later, rfl, hlater⟩ := cases_of_normalize haccepted
  have hmoved : ∃ e, Compact.IsDateText later e ∧ today ≤ e := by
    rcases hlater with ⟨-, rfl⟩ | ⟨-, hnext⟩
    · exact ⟨today, Compact.isDateText_write htoday, Nat.le_refl today.dayNumber⟩
    · obtain ⟨f, hf, hafter⟩ := isDateText_of_nextDate htoday hnext
      exact ⟨f, hf, Nat.le_of_lt hafter⟩
  have hrule : entry.rule = "" ∨ ∃ parsed, RuleText.parse entry.rule = .ok parsed := by
    rcases hlater with ⟨hrule, -⟩ | ⟨-, hnext⟩
    · exact Or.inl hrule
    · exact Or.inr (exists_date_of_nextDate hnext).1
  obtain ⟨e, he, hle⟩ := exists_dateFrom (d := d) htoday hmoved
  exact ⟨⟨htitle, ⟨e, he⟩, hrule⟩, e, he, hle⟩

/-! ## Acceptance and the next date -/

/-- An entry that repeats and has a title and a readable date.

If its date lies in year 1000 or later, it is accepted exactly when its date as submitted and its rule have a
next date, and otherwise it is refused with the same error.  Only the date of an accepted entry changes: it
becomes the next date if it has passed, and its own eight digits if it has not.

A date before year 1000 is written with fewer digits and is not read back.  Such an entry is refused for its
date, whatever next date it has, unless its rule is blank. -/
theorem normalize_agrees (today : Date) (entry : Entry) {d : Date} (htitle : entry.title ≠ "")
    (hdate : Compact.parse entry.date = .ok d) (hrule : entry.rule ≠ "") :
    (1000 ≤ d.year →
      Compact.IsDateText (Compact.write d) d
      ∧ entry.normalize today
        = ((nextDate today entry.date entry.rule).map fun next =>
            { entry with date := if d < today then next else Compact.write d }).mapError .repetition)
    ∧ (d.year < 1000 →
      entry.normalize today
        = .error (.repetition
            (if Text.trim entry.rule.toList = [] then .rule .empty
              else .start ⟨Compact.writeChars d, .notEightDigits⟩))) := by
  have hsubmitted : entry.dateOn today = entry.date := by
    apply if_neg
    intro hempty
    rw [hempty] at hdate
    cases hdate
  have hdateOn : Compact.parse (entry.dateOn today) = .ok d := by
    rw [hsubmitted]
    exact hdate
  have hnormalize := normalize_repeating htitle hdateOn hrule
  constructor
  · intro hyear
    refine ⟨Compact.isDateText_write hyear, ?_⟩
    rw [hnormalize, nextDate_eq_of_parse_eq (Compact.parse_write hyear) hdate]
    rfl
  · intro hyear
    rw [hnormalize]
    unfold nextDate
    rw [Compact.parse_write_early hyear]
    simp only
    split <;> rfl

/-- A passed date moves to the next one, and a date of year 24 is refused though it has a next one. -/
theorem normalize_agrees_lateAndEarly :
    (Compact.parse " 20240229\t" = .ok ⟨2024, 2, 29, by decide⟩
      ∧ normalize ⟨2026, 3, 1, by decide⟩ ⟨" 20240229\t", "t", "c", "m 29,-1 2,12"⟩
        = .ok ⟨"20261229", "t", "c", "m 29,-1 2,12"⟩)
    ∧ (Compact.parse "00240209" = .ok ⟨24, 2, 9, by decide⟩
      ∧ normalize ⟨2024, 1, 26, by decide⟩ ⟨"00240209", "t", "", "w 1"⟩
        = .error (.repetition (.start ⟨"240209".toList, .notEightDigits⟩))) := by
  have hlate : Compact.parse " 20240229\t" = .ok ⟨2024, 2, 29, by decide⟩ := by decide +kernel
  have hearly : Compact.parse "00240209" = .ok ⟨24, 2, 9, by decide⟩ := by decide +kernel
  refine ⟨⟨hlate, ?_⟩, hearly, ?_⟩
  · have hagrees := (normalize_agrees ⟨2026, 3, 1, by decide⟩ ⟨" 20240229\t", "t", "c", "m 29,-1 2,12"⟩
      (by decide) hlate (by decide)).1 (by decide)
    have hnext : nextDate ⟨2026, 3, 1, by decide⟩ " 20240229\t" "m 29,-1 2,12" = .ok "20261229" := by
      decide +kernel
    rw [hagrees.2, hnext]
    rfl
  · rw [(normalize_agrees ⟨2024, 1, 26, by decide⟩ ⟨"00240209", "t", "", "w 1"⟩ (by decide) hearly
      (by decide)).2 (by decide)]
    decide +kernel

/-- The date and the rule have a next date, and yet the entry is refused. -/
theorem normalize_disagrees_early :
    Compact.parse "00240209" = .ok ⟨24, 2, 9, by decide⟩
      ∧ nextDate ⟨2024, 1, 26, by decide⟩ "00240209" "w 1" = .ok "20240129"
      ∧ ¬ ∃ accepted, normalize ⟨2024, 1, 26, by decide⟩ ⟨"00240209", "t", "", "w 1"⟩
        = .ok accepted := by
  have hrefused : normalize ⟨2024, 1, 26, by decide⟩ ⟨"00240209", "t", "", "w 1"⟩
      = .error (.repetition (.start ⟨"240209".toList, .notEightDigits⟩)) := by decide +kernel
  refine ⟨by decide +kernel, by decide +kernel, ?_⟩
  rintro ⟨accepted, haccepted⟩
  rw [hrefused] at haccepted
  cases haccepted

end Entry
end Agenda
