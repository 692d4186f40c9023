import Agenda.Proofs.Calendar.CompactText
import Agenda.Proofs.Recurrence.Outcomes
import Agenda.Proofs.Recurrence.RuleGrammar
import Agenda.Recurrence.NextDate
import Mathlib.Data.List.Chain
/-!
# Runs of next dates

A run asks for the next date again and again, each result being the present date of the next call.  On
texts it is the image of a run on dates, in which the reference day no longer matters after the first
call.

* `Rule.dueDates` — a run on dates, with the error that ended it.
* `nextDates_eq` — the run on texts writes down the run on dates, whether the reference day moves or not.
* `Rule.pairwise_dueDates` — the dates of a run ascend.
* `Rule.listsAll_dueDates` — a run through listed days leaves none of them out.
* `nextDates_run` — all properties of a run together.
-/

namespace Agenda

/-- The list goes in ascending order through all dates with a property that come after a base date, up
to the last one that it has. -/
def ListsAll (p : Date → Prop) (base : Date) (dates : List Date) : Prop :=
  dates.Pairwise (· < ·) ∧ ∀ d, d ∈ dates ↔ p d ∧ base < d ∧ ∃ e ∈ dates, d ≤ e

namespace Rule

/-- Up to `count` next dates, each being the present date of the next call.  If a call fails, the run ends
with its error and with the present date of that call. -/
def dueDates (rule : Rule) : (count : Nat) → (now start : Date) → List Date × Option (Date × NextError)
  | 0, _, _ => ([], none)
  | count + 1, now, start =>
      match rule.next now start with
      | .error cause => ([], some (start, cause))
      | .ok d => (d :: (rule.dueDates count now d).1, (rule.dueDates count now d).2)

variable {rule : Rule}

@[simp] theorem dueDates_zero (rule : Rule) (now start : Date) :
    rule.dueDates 0 now start = ([], none) := rfl

/-- A run starts with a failing call, or with a date from which it goes on. -/
theorem dueDates_succ_cases (rule : Rule) (count : Nat) (now start : Date) :
    (∃ cause, rule.next now start = .error cause
        ∧ rule.dueDates (count + 1) now start = ([], some (start, cause)))
      ∨ ∃ d, rule.next now start = .ok d
        ∧ rule.dueDates (count + 1) now start
          = (d :: (rule.dueDates count now d).1, (rule.dueDates count now d).2) := by
  cases hnext : rule.next now start with
  | error cause => exact Or.inl ⟨cause, rfl, by simp [dueDates, hnext]⟩
  | ok d => exact Or.inr ⟨d, rfl, by simp [dueDates, hnext]⟩

/-- A reference day that is not after the present date matters for no date of a run, nor for its error. -/
theorem dueDates_eq_of_le (hrule : rule.WellFormed) {count : Nat} {now start : Date}
    (hnow : now ≤ start) : rule.dueDates count now start = rule.dueDates count start start := by
  induction count generalizing now start with
  | zero => rfl
  | succ count ih =>
      have hnext := next_eq_next_of_le hrule hnow
      rcases dueDates_succ_cases rule count now start with ⟨cause, herror, hrun⟩ | ⟨d, hd, hrun⟩
      · rw [hrun]
        rw [hnext] at herror
        simp [dueDates, herror]
      · rw [hrun]
        rw [hnext] at hd
        have hafter := (lt_of_next_eq_ok hrule hd).2
        rw [Date.le_iff] at hnow
        rw [Date.lt_iff] at hafter
        have hsame : rule.dueDates count now d = rule.dueDates count start d := by
          rw [ih (show now ≤ d from Date.le_iff.2 (by omega)), ih (show start ≤ d from Date.le_iff.2 (by omega))]
        simp [dueDates, hd, hsame]

/-- The dates of a run ascend and come after the reference day and the present date. -/
theorem pairwise_dueDates (hrule : rule.WellFormed) (count : Nat) (now start : Date) :
    (rule.dueDates count now start).1.Pairwise (· < ·)
      ∧ ∀ d ∈ (rule.dueDates count now start).1, now < d ∧ start < d := by
  induction count generalizing start with
  | zero => exact ⟨List.Pairwise.nil, by simp⟩
  | succ count ih =>
      rcases dueDates_succ_cases rule count now start with ⟨cause, -, hrun⟩ | ⟨d, hd, hrun⟩
      · rw [hrun]
        exact ⟨List.Pairwise.nil, by simp⟩
      · rw [hrun]
        obtain ⟨hascending, hafter⟩ := ih d
        have hfirst := lt_of_next_eq_ok hrule hd
        refine ⟨List.pairwise_cons.2 ⟨fun e he => (hafter e he).2, hascending⟩, ?_⟩
        intro e he
        rcases List.mem_cons.1 he with rfl | hin
        · exact hfirst
        · have hlater := hafter e hin
          refine ⟨hlater.1, ?_⟩
          have hstart := hfirst.2
          have hd := hlater.2
          rw [Date.lt_iff] at hstart hd ⊢
          omega

/-- Only the last call of a run fails. -/
theorem length_dueDates (count : Nat) (now start : Date)
    (hdone : (rule.dueDates count now start).2 = none) :
    (rule.dueDates count now start).1.length = count := by
  induction count generalizing start with
  | zero => rfl
  | succ count ih =>
      rcases dueDates_succ_cases rule count now start with ⟨cause, -, hrun⟩ | ⟨d, -, hrun⟩
      · rw [hrun] at hdone
        cases hdone
      · rw [hrun] at hdone ⊢
        rw [List.length_cons, ih d hdone]

/-- Each date of a run but the first is the next date of the one before it, taken as reference day and as
present date. -/
theorem isChain_dueDates (hrule : rule.WellFormed) (count : Nat) (now start : Date) :
    (rule.dueDates count now start).1.IsChain fun d e => rule.next d d = .ok e := by
  induction count generalizing now start with
  | zero => exact List.isChain_nil
  | succ count ih =>
      rcases dueDates_succ_cases rule count now start with ⟨cause, -, hrun⟩ | ⟨d, hd, hrun⟩
      · rw [hrun]
        exact List.isChain_nil
      · rw [hrun]
        have hnow : now ≤ d := Nat.le_of_lt (lt_of_next_eq_ok hrule hd).1
        refine List.isChain_cons.2 ⟨?_, ih now d⟩
        intro e he
        rw [dueDates_eq_of_le hrule hnow] at he
        cases count with
        | zero => simp at he
        | succ count =>
            rcases dueDates_succ_cases rule count d d with ⟨cause, -, hrest⟩ | ⟨e', he', hrest⟩
            · rw [hrest] at he
              cases he
            · rw [hrest] at he
              obtain rfl := Option.some.inj he
              exact he'

/-- A run of a rule that is due on all days with a property leaves none of them out. -/
theorem listsAll_dueDates (hrule : rule.WellFormed) {p : Date → Prop}
    (hp : ∀ now start d : Date,
      (rule.DueOn start d.dayNumber ∧ now < d) ↔ Date.later now start < d ∧ p d)
    (count : Nat) (now start : Date) :
    ListsAll p (Date.later now start) (rule.dueDates count now start).1 := by
  refine ⟨(pairwise_dueDates hrule count now start).1, ?_⟩
  induction count generalizing start with
  | zero => simp
  | succ count ih =>
      rcases dueDates_succ_cases rule count now start with ⟨cause, -, hrun⟩ | ⟨d, hd, hrun⟩
      · simp [hrun]
      · rw [hrun]
        have hfirst := (next_eq_ok_iff hrule).1 hd
        obtain ⟨hafter, hpd⟩ := (hp now start d).1 ⟨hfirst.due, hfirst.after⟩
        have hrest := ih d
        rw [Date.later_eq_right (Nat.le_of_lt hfirst.after)] at hrest
        intro e
        constructor
        · intro he
          rcases List.mem_cons.1 he with rfl | hin
          · exact ⟨hpd, hafter, e, by simp, Nat.le_refl _⟩
          · obtain ⟨hpe, hlater, -⟩ := (hrest e).1 hin
            exact ⟨hpe, Nat.lt_trans hafter hlater, e, he, Nat.le_refl _⟩
        · rintro ⟨hpe, hlater, f, hf, hle⟩
          -- The first date of the run is the first one with the property.
          obtain ⟨hdue, hnow⟩ := (hp now start e).2 ⟨hlater, hpe⟩
          have hge := hfirst.least e.dayNumber hdue hnow
          by_cases hsame : e = d
          · simp [hsame]
          · have hgt : d < e := by
              rw [Date.lt_iff]
              by_contra hnot
              exact hsame (Date.dayNumber_injective (by omega))
            refine List.mem_cons.2 (Or.inr ((hrest e).2 ⟨hpe, hgt, f, ?_, hle⟩))
            rcases List.mem_cons.1 hf with rfl | hin
            · rw [Date.le_iff] at hle
              rw [Date.lt_iff] at hgt
              omega
            · exact hin

/-- Two dates of a daily run in a row are one interval apart. -/
theorem next_daily_self {interval : Int} (hinterval : 1 ≤ interval) {d e : Date}
    (hnext : (daily interval).next d d = .ok e) : (e.dayNumber : Int) = d.dayNumber + interval := by
  have hstep : (nextDaily d d interval).mapError NextError.calendar = .ok e := hnext
  rw [nextDaily_eq_addDays d d hinterval, firstAfter_eq_self (by omega), add_sub_cancel_left] at hstep
  exact Date.addDays_eq_ok_iff.1 (mapError_eq_ok_iff.1 hstep)

/-- A yearly rule leads to an anniversary of a later year, from a date to the one in the next year. -/
theorem next_yearly_parts {now start d : Date} (hnext : yearly.next now start = .ok d) :
    (d.month, d.day) = start.anniversary ∧ (now = start → d.year = start.year + 1) := by
  have hstep : (nextYearly now start).mapError NextError.calendar = .ok d := hnext
  rw [mapError_eq_ok_iff] at hstep
  rcases nextYearly_cases now start with ⟨e, he, hyear, hparts, -, hleast⟩ | ⟨herror, -⟩
  · rw [he] at hstep
    obtain rfl := Except.ok.inj hstep
    refine ⟨hparts, ?_⟩
    rintro rfl
    by_contra hlater
    have hpast := hleast (now.year + 1) (by omega) (by omega)
    have hfuture : now.dayNumber < now.anniversaryNumber (now.year + 1) :=
      dayNumberOf_lt_of_year_lt now.one_le_year now.month_bounds now.day_bounds.2
        (now.anniversary_bounds (now.year + 1)).2.1 (by omega)
    omega
  · rw [herror] at hstep
    cases hstep

/-- All dates of a yearly run fall on the same day of the year. -/
theorem parts_dueDates_yearly (count : Nat) (now start : Date) :
    ∀ d ∈ (yearly.dueDates count now start).1, (d.month, d.day) = start.anniversary := by
  induction count generalizing start with
  | zero => simp
  | succ count ih =>
      rcases dueDates_succ_cases yearly count now start with ⟨cause, -, hrun⟩ | ⟨d, hd, hrun⟩
      · simp [hrun]
      · rw [hrun]
        have hparts := (next_yearly_parts hd).1
        intro e he
        rcases List.mem_cons.1 he with rfl | hin
        · exact hparts
        · rw [ih d e hin, Date.anniversary_eq_of_parts hparts]

/-- What the dates of a run have in common: a daily run goes on by the interval, a yearly run by a year to
the same month and day, and a run through listed days leaves none of them out. -/
def Regular (rule : Rule) (base : Date) (dates : List Date) : Prop :=
  match rule with
  | daily interval => dates.IsChain fun d e => (e.dayNumber : Int) = d.dayNumber + interval
  | yearly => dates.IsChain fun d e => e.year = d.year + 1 ∧ e.month = d.month ∧ e.day = d.day
  | weekly weekdays => ListsAll (WeekdayListed weekdays) base dates
  | monthly days months => ListsAll (MonthDayListed days months) base dates

theorem regular_dueDates (hrule : rule.WellFormed) (count : Nat) (now start : Date) :
    rule.Regular (Date.later now start) (rule.dueDates count now start).1 := by
  have hchain := isChain_dueDates hrule count now start
  cases rule with
  | daily interval => exact hchain.imp fun d e hnext => next_daily_self hrule.1 hnext
  | yearly =>
      have hparts := parts_dueDates_yearly count now start
      refine hchain.imp_of_mem_imp fun d e hd he hnext => ?_
      have hsame := (hparts e he).trans (hparts d hd).symm
      obtain ⟨hmonth, hday⟩ := Prod.mk.inj hsame
      exact ⟨(next_yearly_parts hnext).2 rfl, hmonth, hday⟩
  | weekly weekdays => exact listsAll_dueDates hrule (fun _ _ _ => dueOn_weekly_iff) count now start
  | monthly days months =>
      exact listsAll_dueDates hrule (fun _ _ _ => dueOn_monthly_iff) count now start

end Rule

/-! ## Runs on texts -/

section Texts

variable {start text : String} {startDate : Date} {rule : Rule}
  (hstart : Compact.parse start = .ok startDate) (hrule : RuleText.parse text = .ok rule)
include hstart hrule

/-- The next date of texts that denote a date and a rule is the text of the next date of these. -/
theorem nextDate_eq (now : Date) :
    nextDate now start text = match rule.next now startDate with
      | .error cause => .error (cause.inText (Text.trim text.toList) startDate)
      | .ok d => .ok (Compact.write d) := by
  have hread : RuleText.read (Text.trim text.toList) = .ok rule := hrule
  have hne : Text.trim text.toList ≠ [] := by
    intro hempty
    rw [hempty] at hread
    exact absurd hread (by simp [RuleText.read])
  unfold nextDate
  cases hnext : rule.next now startDate with
  | error cause => simp only [if_neg hne, hstart, hread, hnext]
  | ok d => simp only [if_neg hne, hstart, hread, hnext]

/-- A run on texts writes down the run on the dates that they denote, whether the reference day stays or
moves along. -/
theorem nextDates_eq (moveNow : Bool) (count : Nat) {now : Date} (hnow : 1000 ≤ now.year) :
    nextDates moveNow text count now start
      = .ok ((rule.dueDates count now startDate).1.map Compact.write,
          (rule.dueDates count now startDate).2.map fun failed =>
            failed.2.inText (Text.trim text.toList) failed.1) := by
  have hwf := RuleText.wellFormed_of_parse hrule
  induction count generalizing now start startDate with
  | zero => rfl
  | succ count ih =>
      have hcall := nextDate_eq hstart hrule now
      rcases rule.dueDates_succ_cases count now startDate with ⟨cause, herror, hrun⟩ | ⟨d, hd, hrun⟩
      · rw [herror] at hcall
        simp [nextDates, hcall, hrun]
      · rw [hd] at hcall
        have hafter := (Rule.lt_of_next_eq_ok hwf hd).1
        have hyear : 1000 ≤ d.year := by
          have hle := Date.year_le_of_lt hafter
          omega
        have hread := Compact.parse_write hyear
        cases moveNow with
        | false =>
            have hrest := ih hread hnow
            simp [nextDates, hcall, hrun, hrest, bind, Except.bind, pure, Except.pure]
        | true =>
            -- From the second call on, the reference day that moved along does not matter.
            have hrest := ih hread hyear
            rw [← Rule.dueDates_eq_of_le hwf (Nat.le_of_lt hafter)] at hrest
            simp [nextDates, hcall, hrun, hread, hrest, bind, Except.bind, pure, Except.pure]

end Texts

/-- A run from a readable date, under a readable rule and from a reference day of year 1000 or later on.

Whether the reference day stays or moves along, the same dates come out, followed by the same error if a
call fails.  All results can be read back, and no call fails because of its start text.  The dates ascend
and come after the reference day and the present date.  A run of a weekly or a monthly rule goes through
all listed dates, a run of a daily rule goes on by the interval, and one of a yearly rule by a year. -/
theorem nextDates_run (now : Date) {start text : String} {startDate : Date} {rule : Rule}
    (hnow : 1000 ≤ now.year) (hstart : Compact.parse start = .ok startDate)
    (hrule : RuleText.parse text = .ok rule) (count : Nat) :
    ∃ dates failure,
      nextDates false text count now start = .ok (dates.map Compact.write, failure)
      ∧ nextDates true text count now start = .ok (dates.map Compact.write, failure)
      ∧ (failure = none → dates.length = count)
      ∧ (∀ d ∈ dates, Compact.parse (Compact.write d) = .ok d)
      ∧ (∀ error, failure = some error → error.code ≠ "INVALID_DATE")
      ∧ dates.Pairwise (· < ·)
      ∧ (∀ d ∈ dates, now < d ∧ startDate < d)
      ∧ rule.Regular (Date.later now startDate) dates := by
  have hwf := RuleText.wellFormed_of_parse hrule
  obtain ⟨hascending, hafter⟩ := Rule.pairwise_dueDates hwf count now startDate
  refine ⟨_, _, nextDates_eq hstart hrule false count hnow, nextDates_eq hstart hrule true count hnow,
    ?_, ?_, ?_, hascending, hafter, Rule.regular_dueDates hwf count now startDate⟩
  · intro hdone
    exact Rule.length_dueDates count now startDate (Option.map_eq_none_iff.1 hdone)
  · intro d hd
    have hyear := Date.year_le_of_lt (hafter d hd).1
    exact Compact.parse_write (by omega)
  · intro error herror
    obtain ⟨failed, -, rfl⟩ := Option.map_eq_some_iff.1 herror
    cases failed.2 with
    | calendar cause => simp [NextError.inText, NextDateError.code]
    | noMatchingDay months => simp [NextError.inText, NextDateError.code]
    | noWeekday => simp [NextError.inText, NextDateError.code]

/-- A run over the last two listed days that the calendar has. -/
theorem nextDates_run_lastDays :
    Compact.parse " 99991101" = .ok ⟨9999, 11, 1, by decide⟩
      ∧ RuleText.parse "m -1,29 12" = .ok (.monthly [-1, 29] [12])
      ∧ ∃ dates : List Date, dates.map Compact.write = ["99991229", "99991231"]
        ∧ dates.Pairwise (· < ·)
        ∧ ListsAll (MonthDayListed [-1, 29] [12]) ⟨9999, 11, 30, by decide⟩ dates := by
  have hstart : Compact.parse " 99991101" = .ok ⟨9999, 11, 1, by decide⟩ := by decide
  have hrule : RuleText.parse "m -1,29 12" = .ok (.monthly [-1, 29] [12]) := by decide
  have hrun : nextDates true "m -1,29 12" 3 ⟨9999, 11, 30, by decide⟩ " 99991101"
      = .ok (["99991229", "99991231"], some (.beyondCalendar "m -1,29 12".toList
          ⟨9999, 12, 31, by decide⟩ (.noSuchYear 10000))) := by decide +kernel
  obtain ⟨dates, failure, -, hmoved, -, -, -, hascending, -, hregular⟩ :=
    nextDates_run ⟨9999, 11, 30, by decide⟩ (by decide) hstart hrule 3
  rw [hrun] at hmoved
  have hdates := (Prod.mk.inj (Except.ok.inj hmoved)).1
  exact ⟨hstart, hrule, dates, hdates.symm, hascending, hregular⟩

end Agenda
