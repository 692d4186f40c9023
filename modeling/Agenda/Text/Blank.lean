/-!
# Blank characters and trimming

The characters that count as blank around a date, a rule, an id or a search text, and the removal of
blanks from both ends of a text.

* `isBlank` — the twenty-nine blank characters.
* `trim` — the text without the blanks at its two ends; blanks inside are kept.
-/

namespace Agenda
namespace Text

/-- Whether a character is blank: the white space of Unicode together with the four information
separators U+001C to U+001F. A zero-width space and a byte order mark are not blank. -/
def isBlank (c : Char) : Bool :=
  let n := c.toNat
  (0x09 ≤ n && n ≤ 0x0D) || (0x1C ≤ n && n ≤ 0x20) || n == 0x85 || n == 0xA0 || n == 0x1680
    || (0x2000 ≤ n && n ≤ 0x200A) || n == 0x2028 || n == 0x2029 || n == 0x202F || n == 0x205F
    || n == 0x3000

def dropEndWhile (p : Char → Bool) (cs : List Char) : List Char :=
  (cs.reverse.dropWhile p).reverse

/-- Drop the characters satisfying `p` from both ends of a list. -/
def dropAround (p : Char → Bool) (cs : List Char) : List Char :=
  dropEndWhile p (cs.dropWhile p)

/-- A text without the blanks at its two ends. -/
def trim (cs : List Char) : List Char :=
  dropAround isBlank cs

def trimmed (s : String) : String :=
  String.ofList (trim s.toList)

end Text
end Agenda
