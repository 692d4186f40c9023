/-!
# Wildcard patterns

Patterns in which `%` stands for any sequence of characters and `_` for any one character. There is no
way to escape them. Other characters stand for themselves, ASCII letters in either case. The two
noncharacters at the end of the first plane are read as replacement characters. A NUL ends the pattern and
the text.

This is the operator `LIKE` of SQLite, without a clause `ESCAPE` and without the extension for the case of
other letters.

* `Wildcard.Matches` — when a pattern matches a text, as a relation.
* `Wildcard.suffixMatches` — for every suffix of a text, whether the pattern matches it.
* `Wildcard.accepts` — whether the pattern matches the text.
-/

namespace Agenda
namespace Wildcard

/-- A character as it is compared: an ASCII capital letter in lower case, the replacement character for
U+FFFE and U+FFFF, and any other character as it is. -/
def folded (c : Char) : Char :=
  if 'A' ≤ c ∧ c ≤ 'Z' then Char.ofNat (c.toNat + 32)
  else if c = '\uFFFE' ∨ c = '\uFFFF' then '\uFFFD'
  else c

/-- Whether a character other than `%` of a pattern matches a character of a text. -/
def sameLetter (p c : Char) : Bool :=
  p == '_' || folded p == folded c

inductive Matches : List Char → List Char → Prop
  | nil : Matches [] []
  | skip (p s : List Char) (h : Matches p s) : Matches ('%' :: p) s
  | take (p : List Char) (c : Char) (s : List Char) (h : Matches ('%' :: p) s) :
      Matches ('%' :: p) (c :: s)
  | letter (a : Char) (p : List Char) (c : Char) (s : List Char) (hwild : a ≠ '%')
      (hsame : sameLetter a c = true) (h : Matches p s) : Matches (a :: p) (c :: s)

/-- For every entry of a list, whether it or a later one is true. -/
def anyLater : List Bool → List Bool
  | [] => []
  | b :: rest =>
      let later := anyLater rest
      (b || later.headD false) :: later

/-- For every suffix of a text, the longest first, whether the pattern matches it. -/
def suffixMatches : (pattern text : List Char) → List Bool
  | [], s => s.map (fun _ => false) ++ [true]
  | a :: p, s =>
      let rest := suffixMatches p s
      if a = '%' then anyLater rest
      else List.zipWith (fun c matched => sameLetter a c && matched) s rest.tail ++ [false]

def untilNul (cs : List Char) : List Char :=
  cs.takeWhile fun c => c != '\x00'

/-- Whether a pattern matches a text. -/
def accepts (pattern text : List Char) : Bool :=
  (suffixMatches (untilNul pattern) (untilNul text)).headD false

/-- The pattern that is matched by the texts in which the given text occurs. -/
def containing (cs : List Char) : List Char :=
  '%' :: (cs ++ ['%'])

end Wildcard
end Agenda
