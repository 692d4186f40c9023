import Agenda.Calendar.Compact
/-!
# Dotted date texts

The form `DD.MM.YYYY` in which a search names a date. Unlike a compact date it stands alone: a text
with anything around it, a blank included, is no date but a word to search for.

* `Dotted.parse?` — the date that a text denotes.
* `Dotted.write` — the dotted text of a date.
-/

namespace Agenda
namespace Dotted

def read? (cs : List Char) : Option Date :=
  match cs with
  | [d1, d2, '.', m1, m2, '.', y1, y2, y3, y4] =>
      match Compact.digits? [d1, d2], Compact.digits? [m1, m2], Compact.digits? [y1, y2, y3, y4] with
      | some day, some month, some year =>
          Date.ofParts? (Text.ofDigits year) (Text.ofDigits month) (Text.ofDigits day)
      | _, _, _ => none
  | _ => none

/-- The date that a text denotes. -/
def parse? (text : String) : Option Date :=
  read? text.toList

def write (d : Date) : String :=
  String.ofList
    (Text.padded 2 d.day ++ '.' :: (Text.padded 2 d.month ++ '.' :: Text.padded 4 d.year))

end Dotted
end Agenda
