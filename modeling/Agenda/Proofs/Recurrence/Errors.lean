import Agenda.Proofs.Calendar.CompactText
import Agenda.Proofs.Recurrence.Outcomes
import Agenda.Proofs.Recurrence.RuleGrammar
import Agenda.Recurrence.NextDate
/-!
# Which error comes first

Asking for the next date of two texts ends with a date or with one of six errors.  Which one it is can
be told from the texts and the reference day: the rule text is asked whether it is empty, the start text
whether it is a date, then the rule text for its shape and for its numbers, and only then the calendar.

* `NextDateOutcome` — the outcomes of a call, each with the steps that lead to it; `nextDate_outcome` — there is no
  other.
* `failureCode` — the code that a call ends with.
* `DecidedOutcome` — when each of the codes arises.
* `nextDate_decidedOutcome` — the outcome of any two texts is decided in this way.
* `nextDate_ne_noWeekday` — no rule that is read from a text lists no weekday.
-/

namespace Agenda

/-! ## The steps of a call -/

/-- The outcomes of a call with a reference day and two texts.  The rule text is trimmed first, and the steps before
the one that fails have succeeded. -/
inductive NextDateOutcome (now : Date) (start rule : String) : Except NextDateError String → Prop
  | emptyRule (hrule : Text.trim rule.toList = []) : NextDateOutcome now start rule (.error (.rule .empty))
  | badStart {cause : DateTextError} (hrule : Text.trim rule.toList ≠ [])
      (hstart : Compact.parse start = .error cause) : NextDateOutcome now start rule (.error (.start cause))
  | badRule {startDate : Date} {cause : RuleTextError} (hrule : Text.trim rule.toList ≠ [])
      (hstart : Compact.parse start = .ok startDate) (hread : RuleText.parse rule = .error cause) :
      NextDateOutcome now start rule (.error (.rule cause))
  | noDate {startDate : Date} {parsed : Rule} {cause : NextError} (hrule : Text.trim rule.toList ≠ [])
      (hstart : Compact.parse start = .ok startDate) (hread : RuleText.parse rule = .ok parsed)
      (hnext : parsed.next now startDate = .error cause) :
      NextDateOutcome now start rule (.error (cause.inText (Text.trim rule.toList) startDate))
  | date {startDate d : Date} {parsed : Rule} (hrule : Text.trim rule.toList ≠ [])
      (hstart : Compact.parse start = .ok startDate) (hread : RuleText.parse rule = .ok parsed)
      (hnext : parsed.next now startDate = .ok d) :
      NextDateOutcome now start rule (.ok (Compact.write d))

theorem nextDate_outcome (now : Date) (start rule : String) :
    NextDateOutcome now start rule (nextDate now start rule) := by
  unfold nextDate
  simp only
  split
  · next hrule => exact .emptyRule hrule
  · next hrule =>
      split
      · next cause hstart => exact .badStart hrule hstart
      · next startDate hstart =>
          split
          · next cause hread => exact .badRule hrule hstart hread
          · next parsed hread =>
              split
              · next cause hnext => exact .noDate hrule hstart hread hnext
              · next d hnext => exact .date hrule hstart hread hnext

/-- A next date is the text of the next date of the rule that the rule text denotes. -/
theorem exists_next_of_nextDate {now : Date} {start rule next : String}
    (hnext : nextDate now start rule = .ok next) :
    ∃ parsed startDate d, RuleText.parse rule = .ok parsed ∧ Compact.parse start = .ok startDate
      ∧ parsed.next now startDate = .ok d ∧ next = Compact.write d := by
  have houtcome := nextDate_outcome now start rule
  rw [hnext] at houtcome
  cases houtcome with
  | date hrule hstart hread hd => exact ⟨_, _, _, hread, hstart, hd, rfl⟩

/-- A rule that is read from a text has a weekday, if it is a weekly one. -/
theorem nextDate_ne_noWeekday (now : Date) (start rule : String) :
    nextDate now start rule ≠ .error .noWeekday := by
  intro h
  have houtcome := nextDate_outcome now start rule
  generalize nextDate now start rule = answer at h houtcome
  cases houtcome with
  | emptyRule => cases h
  | badStart => cases h
  | badRule => cases h
  | date => cases h
  | @noDate startDate parsed cause hrule hstart hread hnext =>
      rcases Rule.next_cases (RuleText.wellFormed_of_parse hread) now startDate with ⟨d, hd, -⟩ | ⟨cause', hcause, -⟩ |
        ⟨hcause, -⟩
      · cases hnext.symm.trans hd
      · obtain rfl := Except.error.inj (hnext.symm.trans hcause)
        cases h
      · obtain rfl := Except.error.inj (hnext.symm.trans hcause)
        cases h

/-! ## Codes -/

/-- The code with which a call for the next date ends; there is none when it ends with a date. -/
def failureCode (answer : Except NextDateError String) : Option String :=
  match answer with
  | .ok _ => none
  | .error error => some error.code

@[simp] theorem failureCode_ok (text : String) : failureCode (.ok text) = none := rfl

@[simp] theorem failureCode_error (error : NextDateError) :
    failureCode (.error error) = some error.code := rfl

/-- The codes of the errors in which a call may end. -/
def failureCodes : List String :=
  ["EMPTY_RULE", "INVALID_DATE", "UNSUPPORTED_FORMAT", "INVALID_NUMERIC_FIELD", "NO_MATCHING_DAY",
    "DATE_OUT_OF_RANGE"]

/-- The start text denotes a date, and the rule text has the shape of a rule with all numbers in range. -/
structure Readable (start rule : List Char) (startDate : Date) (parsed : Rule) : Prop where
  rule_ne_nil : rule ≠ []
  denotes : Compact.Denotes start startDate
  written : ∃ shape, RuleShape.Written rule shape ∧ shape.InRange ∧ shape.rule = parsed

theorem readable_of_parse {start rule : String} {startDate : Date} {parsed : Rule}
    (hrule : Text.trim rule.toList ≠ []) (hstart : Compact.parse start = .ok startDate)
    (hread : RuleText.parse rule = .ok parsed) :
    Readable (Text.trim start.toList) (Text.trim rule.toList) startDate parsed :=
  ⟨hrule, Compact.parse_eq_ok_iff.1 hstart, RuleText.exists_written_of_read hread⟩

/-- How a call with a reference day and two trimmed texts ends.  Each condition excludes those of the codes
before it. -/
structure DecidedOutcome (now : Date) (start rule : List Char) (answer : Except NextDateError String) :
    Prop where
  ends : (∃ d, answer = .ok (Compact.write d)
      ∧ (1000 ≤ d.year → Compact.IsDateText (Compact.write d) d))
    ∨ ∃ error, answer = .error error ∧ error.code ∈ failureCodes
  emptyRule : failureCode answer = some "EMPTY_RULE" ↔ rule = []
  invalidDate : failureCode answer = some "INVALID_DATE"
    ↔ rule ≠ [] ∧ ¬ ∃ d, Compact.Denotes start d
  unsupportedFormat : failureCode answer = some "UNSUPPORTED_FORMAT"
    ↔ rule ≠ [] ∧ (∃ d, Compact.Denotes start d) ∧ ¬ ∃ shape, RuleShape.Written rule shape
  invalidNumericField : failureCode answer = some "INVALID_NUMERIC_FIELD"
    ↔ rule ≠ [] ∧ (∃ d, Compact.Denotes start d)
      ∧ ∃ shape, RuleShape.Written rule shape ∧ ¬ shape.InRange
  noMatchingDay : failureCode answer = some "NO_MATCHING_DAY"
    ↔ ∃ startDate parsed, Readable start rule startDate parsed
      ∧ parsed.Starved (Date.later now startDate)
  dateOutOfRange : failureCode answer = some "DATE_OUT_OF_RANGE"
    ↔ ∃ startDate parsed, Readable start rule startDate parsed
      ∧ ¬ parsed.Starved (Date.later now startDate) ∧ parsed.LeavesCalendar now startDate
  success : failureCode answer = none
    ↔ ∃ startDate parsed, Readable start rule startDate parsed
      ∧ ¬ parsed.Starved (Date.later now startDate) ∧ ¬ parsed.LeavesCalendar now startDate

section Decided

variable {now : Date} {start rule : List Char} {answer : Except NextDateError String}

theorem decidedOutcome_of_empty (hrule : rule = []) (hanswer : answer = .error (.rule .empty)) :
    DecidedOutcome now start rule answer := by
  subst hrule hanswer
  have hreadable : ∀ startDate parsed, ¬ Readable start [] startDate parsed :=
    fun _ _ h => h.rule_ne_nil rfl
  constructor <;> simp [NextDateError.code, failureCodes, hreadable]

theorem decidedOutcome_of_noDate (hrule : rule ≠ []) (hstart : ¬ ∃ d, Compact.Denotes start d)
    {cause : DateTextError} (hanswer : answer = .error (.start cause)) :
    DecidedOutcome now start rule answer := by
  subst hanswer
  have hreadable : ∀ startDate parsed, ¬ Readable start rule startDate parsed :=
    fun startDate _ h => hstart ⟨startDate, h.denotes⟩
  constructor <;> simp [NextDateError.code, failureCodes, hreadable, hrule, hstart]

theorem decidedOutcome_of_noShape (hrule : rule ≠ []) (hstart : ∃ d, Compact.Denotes start d)
    (hshape : ¬ ∃ shape, RuleShape.Written rule shape) {text : List Char}
    (hanswer : answer = .error (.rule (.unsupported text))) :
    DecidedOutcome now start rule answer := by
  subst hanswer
  have hwritten : ∀ shape, ¬ RuleShape.Written rule shape := fun shape h => hshape ⟨shape, h⟩
  have hreadable : ∀ startDate parsed, ¬ Readable start rule startDate parsed := by
    intro startDate parsed h
    obtain ⟨shape, hw, -⟩ := h.written
    exact hwritten shape hw
  constructor <;>
    simp [NextDateError.code, failureCodes, hreadable, hrule, hstart, hwritten]

theorem decidedOutcome_of_outOfRange (hrule : rule ≠ []) (hstart : ∃ d, Compact.Denotes start d)
    {shape : RuleShape} (hshape : RuleShape.Written rule shape) (hout : ¬ shape.InRange)
    {which : RuleNumber} {n : Int} (hanswer : answer = .error (.rule (.outOfRange which n))) :
    DecidedOutcome now start rule answer := by
  subst hanswer
  have hsome : ∃ shape, RuleShape.Written rule shape := ⟨shape, hshape⟩
  have hsomeOut : ∃ shape, RuleShape.Written rule shape ∧ ¬ shape.InRange := ⟨shape, hshape, hout⟩
  have hreadable : ∀ startDate parsed, ¬ Readable start rule startDate parsed := by
    intro startDate parsed h
    obtain ⟨shape', hw, hin, -⟩ := h.written
    rw [hw.unique hshape] at hin
    exact hout hin
  constructor <;>
    simp [NextDateError.code, failureCodes, hreadable, hrule, hstart, hsome, hsomeOut]

/-- With readable texts the outcome is that of the rule on the dates. -/
theorem decidedOutcome_of_readable {startDate : Date} {parsed : Rule} (text : List Char)
    (hread : Readable start rule startDate parsed) (hwf : parsed.WellFormed)
    (hanswer : answer = match parsed.next now startDate with
      | .error cause => .error (cause.inText text startDate)
      | .ok d => .ok (Compact.write d)) :
    DecidedOutcome now start rule answer := by
  have hrule := hread.rule_ne_nil
  have hstart : ∃ d, Compact.Denotes start d := ⟨startDate, hread.denotes⟩
  obtain ⟨shape, hshape, hin, hparsed⟩ := hread.written
  have hsome : ∃ shape, RuleShape.Written rule shape := ⟨shape, hshape⟩
  have hnotOut : ¬ ∃ shape', RuleShape.Written rule shape' ∧ ¬ shape'.InRange := by
    rintro ⟨shape', hw, hout⟩
    rw [hw.unique hshape] at hout
    exact hout hin
  have honly : ∀ startDate' parsed', Readable start rule startDate' parsed'
      ↔ startDate' = startDate ∧ parsed' = parsed := by
    intro startDate' parsed'
    constructor
    · intro h
      obtain ⟨shape', hw, -, hparsed'⟩ := h.written
      rw [hw.unique hshape, hparsed] at hparsed'
      exact ⟨h.denotes.unique hread.denotes, hparsed'.symm⟩
    · rintro ⟨rfl, rfl⟩
      exact hread
  rcases Rule.next_cases hwf now startDate with ⟨d, hd, hdue⟩ | ⟨cause, herror, hleaves⟩ |
    ⟨herror, hstarved⟩
  · rw [hd] at hanswer
    subst hanswer
    have hnotLeaves := hdue.not_leavesCalendar
    have hnotStarved := hdue.not_starved
    constructor
    case ends => exact Or.inl ⟨d, rfl, Compact.isDateText_write⟩
    all_goals
      simp [hrule, hstart, hsome, hnotOut, honly, hnotLeaves, hnotStarved]
  · rw [herror] at hanswer
    subst hanswer
    have hnotStarved := hleaves.not_starved
    constructor <;>
      simp [NextDateError.code, failureCodes, NextError.inText, hrule, hstart, hsome,
        hnotOut, honly, hleaves, hnotStarved]
  · rw [herror] at hanswer
    subst hanswer
    constructor <;>
      simp [NextDateError.code, failureCodes, NextError.inText, hrule, hstart, hsome,
        hnotOut, honly, hstarved]

end Decided

/-- The next date of any two texts, either of which may be missing and then counts as empty, ends in one of
the ways that `DecidedOutcome` tells apart. -/
theorem nextDate_decidedOutcome (now : Date) (start rule : Option String) :
    DecidedOutcome now (Text.trim (start.getD "").toList) (Text.trim (rule.getD "").toList)
      (nextDate now (start.getD "") (rule.getD "")) := by
  generalize start.getD "" = start
  generalize rule.getD "" = rule
  have houtcome := nextDate_outcome now start rule
  generalize nextDate now start rule = answer at houtcome ⊢
  cases houtcome with
  | emptyRule hrule => exact decidedOutcome_of_empty hrule rfl
  | badStart hrule hstart =>
      refine decidedOutcome_of_noDate hrule ?_ rfl
      rintro ⟨d, hd⟩
      cases hstart.symm.trans (Compact.parse_eq_ok_iff.2 hd)
  | badRule hrule hstart hread =>
      have hdenotes := Compact.parse_eq_ok_iff.1 hstart
      rcases RuleText.read_cases hrule with ⟨hnone, hcause⟩ | ⟨shape, hshape, ⟨hout, which, n, hcause⟩ | ⟨-, hparsed⟩⟩
      · obtain rfl := Except.error.inj (hread.symm.trans hcause)
        exact decidedOutcome_of_noShape hrule ⟨_, hdenotes⟩ hnone rfl
      · obtain rfl := Except.error.inj (hread.symm.trans hcause)
        exact decidedOutcome_of_outOfRange hrule ⟨_, hdenotes⟩ hshape hout rfl
      · cases hread.symm.trans hparsed
  | noDate hrule hstart hread hnext =>
      refine decidedOutcome_of_readable (Text.trim rule.toList) (readable_of_parse hrule hstart hread) (RuleText.wellFormed_of_parse hread) ?_
      rw [hnext]
  | date hrule hstart hread hnext =>
      refine decidedOutcome_of_readable (Text.trim rule.toList) (readable_of_parse hrule hstart hread) (RuleText.wellFormed_of_parse hread) ?_
      rw [hnext]

/-- A monthly rule ends in different errors in the last two years of the calendar. -/
example : failureCode (nextDate ⟨9998, 12, 31, by decide⟩ "99981231" "m 30 2") = some "NO_MATCHING_DAY"
    ∧ failureCode (nextDate ⟨9999, 1, 1, by decide⟩ "99981231" "m 30 2") = some "DATE_OUT_OF_RANGE" := by
  decide +kernel

end Agenda
