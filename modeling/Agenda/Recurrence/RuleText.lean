import Agenda.Calendar.MonthDays
import Agenda.Recurrence.Rule
import Agenda.Text.Blank
import Agenda.Text.Parts
/-!
# Rule texts

The text form of a repeat rule:

* `d <interval>` with one to three digits,
* `y`,
* `w <weekday>,...` with single digits,
* `m <day>,... [<month>,...]` with one or two digits each, days optionally with a minus sign.

A text is read in two steps. Its *shape* is recognised first; the numbers in it are checked next, in
the order in which they are written.

* `RuleShape` — a recognised text with its numbers as written.
* `RuleShape.read?` — the shape of a trimmed text.
* `RuleShape.check` — the rule of a shape whose numbers are in range; lists become ascending.
* `RuleText.parse` — both steps, for a text with blanks around it.
* `RuleText.write` — the text of a rule.
-/

namespace Agenda

/-- The numbers of a recognised rule text, as they are written. -/
inductive RuleShape
  | daily (interval : Int)
  | yearly
  | weekly (weekdays : List Int)
  | monthly (days : List Int) (months : Option (List Int))
deriving DecidableEq

inductive RuleNumber
  | interval
  | weekday
  | monthDay
  | month
deriving DecidableEq

inductive RuleTextError
  | empty
  | unsupported (text : List Char)
  | outOfRange (which : RuleNumber) (number : Int)
deriving DecidableEq

namespace RuleShape

/-- The number that a text of ASCII digits denotes, if it has at least one digit and no more than the
given number of them. -/
def digitsUpTo (longest : Nat) (cs : List Char) : Option Int :=
  if cs ≠ [] ∧ cs.length ≤ longest then
    (cs.mapM Text.asciiDigit?).map fun ds => (Text.ofDigits ds : Int)
  else none

/-- A number of one or two digits with an optional minus sign. -/
def signedNumber : List Char → Option Int
  | '-' :: rest => (digitsUpTo 2 rest).map fun n => -n
  | cs => digitsUpTo 2 cs

/-- A list of numbers separated by commas. -/
def numbers (number : List Char → Option Int) (cs : List Char) : Option (List Int) :=
  (Text.parts ',' cs).mapM number

/-- The days and the months of a monthly rule: the months follow after a single space. -/
def monthlyParts (cs : List Char) : Option RuleShape :=
  match Text.parts ' ' cs with
  | [days] => (numbers signedNumber days).map fun ds => monthly ds none
  | [days, months] => do
      let ds ← numbers signedNumber days
      let ms ← numbers (digitsUpTo 2) months
      pure (monthly ds (some ms))
  | _ => none

/-- The shape of a trimmed text. -/
def read? : List Char → Option RuleShape
  | ['y'] => some yearly
  | 'd' :: ' ' :: rest => (digitsUpTo 3 rest).map daily
  | 'w' :: ' ' :: rest => (numbers (digitsUpTo 1) rest).map weekly
  | 'm' :: ' ' :: rest => monthlyParts rest
  | _ => none

def firstFailing (p : Int → Prop) [DecidablePred p] (ns : List Int) : Option Int :=
  ns.find? fun n => !decide (p n)

/-- The rule of a shape, or the first number that is out of range. All days of a monthly rule are
looked at before its months. -/
def check : RuleShape → Except RuleTextError Rule
  | daily interval =>
      if IsInterval interval then .ok (.daily interval)
      else .error (.outOfRange .interval interval)
  | yearly => .ok .yearly
  | weekly weekdays =>
      match firstFailing IsWeekday weekdays with
      | some n => .error (.outOfRange .weekday n)
      | none => .ok (.weekly (sortUnique weekdays))
  | monthly days months =>
      match firstFailing IsMonthDay days with
      | some n => .error (.outOfRange .monthDay n)
      | none =>
          match months with
          | none => .ok (.monthly (sortUnique days) allMonths)
          | some ms =>
              match firstFailing IsMonth ms with
              | some n => .error (.outOfRange .month n)
              | none => .ok (.monthly (sortUnique days) (sortUnique ms))

end RuleShape

namespace RuleText

def read (cs : List Char) : Except RuleTextError Rule :=
  if cs = [] then .error .empty
  else
    match RuleShape.read? cs with
    | none => .error (.unsupported cs)
    | some shape => shape.check

/-- The rule that a text denotes, blanks around it aside. -/
def parse (text : String) : Except RuleTextError Rule :=
  read (Text.trim text.toList)

def commaSeparated : List Int → List Char
  | [] => []
  | [n] => Text.signedDecimal n
  | n :: rest => Text.signedDecimal n ++ ',' :: commaSeparated rest

/-- The text of a rule; months are always written out. -/
def writeChars : Rule → List Char
  | .daily interval => 'd' :: ' ' :: Text.signedDecimal interval
  | .yearly => ['y']
  | .weekly weekdays => 'w' :: ' ' :: commaSeparated weekdays
  | .monthly days months => 'm' :: ' ' :: (commaSeparated days ++ ' ' :: commaSeparated months)

def write (rule : Rule) : String :=
  String.ofList (writeChars rule)

end RuleText

namespace RuleNumber

def label : RuleNumber → String
  | interval => "day interval"
  | weekday => "weekday"
  | monthDay => "month day"
  | month => "month"

end RuleNumber

namespace RuleTextError

def message : RuleTextError → String
  | empty => "repeat rule is empty"
  | unsupported text => "unsupported interval format '" ++ String.ofList text ++ "'"
  | outOfRange which number =>
      "invalid " ++ which.label ++ " '" ++ String.ofList (Text.signedDecimal number) ++ "'"

end RuleTextError

end Agenda
