import Agenda.Recurrence.NextDate
/-!
# Entries

An entry of the agenda: a task with its date and its repeat rule, as texts.

* `Entry` — the four texts.
* `Entry.normalize` — check a submitted entry and put its date in order.
* `EntryError` — why a submitted entry is refused.

A submitted entry needs a title. Its date may be left out, which means today; blanks around it are
dropped. A repeat rule, if there is one, must have a next date. A date in the past moves to the next
date of the rule, or to today when the task does not repeat.
-/

namespace Agenda

/-- A task of the agenda. An entry without a rule does not repeat. -/
structure Entry where
  date : String := ""
  title : String := ""
  comment : String := ""
  rule : String := ""
deriving DecidableEq

inductive EntryError
  | missingTitle
  | invalidDate
  | repetition (cause : NextDateError)
deriving DecidableEq

namespace Entry

/-- The next date of an entry that repeats, for its date in order; nothing for one that does not. -/
def following (today : Date) (date rule : String) : Except EntryError (Option String) :=
  if rule = "" then .ok none
  else
    match nextDate today date rule with
    | .ok next => .ok (some next)
    | .error cause => .error (.repetition cause)

/-- The accepted form of a submitted entry on a given day. -/
def normalize (today : Date) (entry : Entry) : Except EntryError Entry :=
  if entry.title = "" then .error .missingTitle
  else
    let submitted := if entry.date = "" then Compact.write today else entry.date
    match Compact.parse submitted with
    | .error _ => .error .invalidDate
    | .ok date =>
        -- The rule is asked about the date as it is written again, and not as it was submitted.
        let written := Compact.write date
        match following today written entry.rule with
        | .error cause => .error cause
        | .ok next =>
            if date < today then
              .ok { entry with date := next.getD (Compact.write today) }
            else .ok { entry with date := written }

end Entry

namespace EntryError

def code : EntryError → String
  | missingTitle => "MISSING_TITLE"
  | invalidDate => "INVALID_DATE"
  | repetition cause => cause.code

def message : EntryError → String
  | missingTitle => "title is required"
  | invalidDate => "invalid date format"
  | repetition cause => cause.message

end EntryError

end Agenda
