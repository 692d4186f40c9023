import Agenda.Calendar.Dotted
import Agenda.Store.Table
import Agenda.Text.Utf8
import Agenda.Text.Wildcard
/-!
# Searching the table

The rows that a search selects, in the order of their dates.

* `Query` — what a search text asks for: everything, the entries of a date, or those with a word.
* `Query.selects` — whether an entry is asked for.
* `byDate` — rows in the order of their date texts, rows of one date text in the order of their ids.
* `cutTo` — the first rows up to a limit.
-/

namespace Agenda

inductive Query
  | everything
  | onDate (date : Date)
  | containing (word : List Char)
deriving DecidableEq

/-- The longest pattern, in bytes, that SQLite matches by default. -/
def maxPatternBytes : Nat := 50000

namespace Query

/-- The query of a search text: a dotted date, or else a word. -/
def ofSearch (search : String) : Query :=
  if search = "" then everything
  else
    match Dotted.parse? search with
    | some date => onDate date
    | none => containing search.toList

def tooLong : Query → Bool
  | containing word => maxPatternBytes < (Text.utf8Chars (Wildcard.containing word)).length
  | _ => false

/-- Whether an entry is asked for. A word is looked for in the title and in the comment. -/
def selects : Query → Entry → Bool
  | everything, _ => true
  | onDate date, entry => entry.date == Compact.write date
  | containing word, entry =>
      Wildcard.accepts (Wildcard.containing word) entry.title.toList
        || Wildcard.accepts (Wildcard.containing word) entry.comment.toList

end Query

/-- Whether a row may stand before another one in the order of the date texts, and among rows of one date text
of the ids. -/
def Row.precedes (a b : Row) : Bool :=
  a.entry.date < b.entry.date || (a.entry.date == b.entry.date && a.id ≤ b.id)

def byDate (rows : List Row) : List Row :=
  rows.mergeSort Row.precedes

/-- The first elements of a list up to a limit; a negative limit is none. -/
def cutTo {α : Type} (limit : Int) (xs : List α) : List α :=
  if limit < 0 then xs else xs.take limit.toNat

end Agenda
