import Agenda.Calendar.Compact
import Agenda.Recurrence.Next
import Agenda.Recurrence.RuleText
/-!
# Next dates of texts

The next date of a task whose date and rule are given as texts, and what happens when it is asked for
again and again.

* `nextDate` — the compact text of the next date.
* `NextDateError` — the one error that a failing call ends in, with its code and wording.
* `nextDates` — a run of calls in which every result is the start of the next call.
-/

namespace Agenda

/-- Why two texts have no next date. -/
inductive NextDateError
  | rule (cause : RuleTextError)
  | start (cause : DateTextError)
  | noMatchingDay (months : List Int)
  | beyondCalendar (rule : List Char) (start : Date) (cause : CalendarError)
  | noWeekday
deriving DecidableEq

/-- The error of a rule that has no next date, for the texts from which it was read. -/
def NextError.inText (rule : List Char) (start : Date) : NextError → NextDateError
  | .calendar cause => .beyondCalendar rule start cause
  | .noMatchingDay months => .noMatchingDay months
  | .noWeekday => .noWeekday

/-- The next date of a task with the given date and rule, after the day `now`. An empty rule is
reported before a bad date, and a bad date before a bad rule. -/
def nextDate (now : Date) (start rule : String) : Except NextDateError String :=
  let ruleChars := Text.trim rule.toList
  if ruleChars = [] then .error (.rule .empty)
  else
    match Compact.parse start with
    | .error cause => .error (.start cause)
    | .ok startDate =>
        match RuleText.read ruleChars with
        | .error cause => .error (.rule cause)
        | .ok parsed =>
            match parsed.next now startDate with
            | .error cause => .error (cause.inText ruleChars startDate)
            | .ok result => .ok (Compact.write result)

/-- Up to `count` calls of `nextDate` with one rule. Every result is the start of the next call; with
`moveNow` its date is also the next reference day. The run ends at the first failing call, whose error
follows the results. A result that is needed as a reference day and cannot be read fails the whole
run. -/
def nextDates (moveNow : Bool) (rule : String) :
    (count : Nat) → (now : Date) → (start : String) →
      Except DateTextError (List String × Option NextDateError)
  | 0, _, _ => .ok ([], none)
  | count + 1, now, start =>
      match nextDate now start rule with
      | .error cause => .ok ([], some cause)
      | .ok result => do
          let now' ← if moveNow then Compact.parse result else pure now
          let (results, failure) ← nextDates moveNow rule count now' result
          pure (result :: results, failure)

namespace NextDateError

def code : NextDateError → String
  | rule .empty => "EMPTY_RULE"
  | rule (.unsupported _) => "UNSUPPORTED_FORMAT"
  | rule (.outOfRange _ _) => "INVALID_NUMERIC_FIELD"
  | start _ => "INVALID_DATE"
  | noMatchingDay _ => "NO_MATCHING_DAY"
  | beyondCalendar _ _ _ => "DATE_OUT_OF_RANGE"
  | noWeekday => "NO_WEEKDAY"

def bracketed (ns : List Int) : String :=
  let rec rest : List Int → List Char
    | [] => [']']
    | [n] => Text.signedDecimal n ++ [']']
    | n :: ns => Text.signedDecimal n ++ ',' :: ' ' :: rest ns
  String.ofList ('[' :: rest ns)

def message : NextDateError → String
  | rule cause => cause.message
  | start cause => cause.message
  | noMatchingDay months =>
      "invalid repeat rule: there aren't these days in submitted months " ++ bracketed months
  | beyondCalendar text day cause =>
      "next date for '" ++ String.ofList text ++ "' from " ++ day.hyphenated
        ++ " is out of range: " ++ cause.message
  -- A failure without a wording of its own: the first weekday of an empty list is looked up.
  | noWeekday => "list index out of range"

end NextDateError

end Agenda
