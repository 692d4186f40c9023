import Agenda.Text.Printable
/-!
# Quoted texts

The form in which an unreadable setting is shown in an error: between single quotes, or between
double quotes when the text has a single quote and no double quote, with everything that would not
show escaped by a backslash.

* `quote` — the quoted form.
* `escape` — the form of one character between the given quotes.
-/

namespace Agenda
namespace Text

/-- A number in lower-case hexadecimal digits, filled up with zeros to the given width. -/
def hexadecimal (width n : Nat) : List Char :=
  List.leftpad width '0' (Nat.toDigits 16 n)

def quoteFor (cs : List Char) : Char :=
  if '\'' ∈ cs ∧ '"' ∉ cs then '"' else '\''

/-- One character between quotes: the quote itself and the backslash take a backslash, tab, line feed
and carriage return have names, and an unprintable character is given by its number. -/
def escape (delimiter c : Char) : List Char :=
  if c = delimiter ∨ c = '\\' then ['\\', c]
  else if c = '\t' then ['\\', 't']
  else if c = '\n' then ['\\', 'n']
  else if c = '\r' then ['\\', 'r']
  else if isPrintable c then [c]
  else if c.toNat < 0x100 then '\\' :: 'x' :: hexadecimal 2 c.toNat
  else if c.toNat < 0x10000 then '\\' :: 'u' :: hexadecimal 4 c.toNat
  else '\\' :: 'U' :: hexadecimal 8 c.toNat

def quote (cs : List Char) : List Char :=
  quoteFor cs :: (cs.flatMap (escape (quoteFor cs)) ++ [quoteFor cs])

end Text
end Agenda
