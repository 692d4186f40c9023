import Agenda.Text.Blank
import Agenda.Text.Digit
import Agenda.Text.Parts
/-!
# Cookies

The cookies of a request: pairs of a name and a value, separated by semicolons. Blanks around names and
values are dropped, and a value in double quotes is taken out of them.

* `Cookie.values` — the pairs of a cookie header.
* `Cookie.find?` — the value of a name; of several the last one counts.
-/

namespace Agenda
namespace Cookie

/-- The characters of a quoted value: a backslash stands before a character that is meant as it is, or
before the three octal digits of one. -/
def unescape : List Char → List Char
  | '\\' :: a :: b :: c :: rest =>
      match Text.asciiDigit? a, Text.asciiDigit? b, Text.asciiDigit? c with
      | some x, some y, some z =>
          if x ≤ 3 ∧ y ≤ 7 ∧ z ≤ 7 then Char.ofNat (x * 64 + y * 8 + z) :: unescape rest
          else a :: unescape (b :: c :: rest)
      | _, _, _ => a :: unescape (b :: c :: rest)
  | '\\' :: a :: rest => a :: unescape rest
  | c :: rest => c :: unescape rest
  | [] => []

/-- A value without the double quotes around it, if there are any. -/
def unquote (cs : List Char) : List Char :=
  match cs with
  | '"' :: rest =>
      if rest.getLast? = some '"' then unescape rest.dropLast else cs
  | _ => cs

/-- Whether a character is a blank of a header. Headers are bytes, so that only blanks of ASCII
count. -/
def isHeaderBlank (c : Char) : Bool :=
  Text.isBlank c && c.toNat < 0x80

/-- The name and the value of a part of the header; a part without an equals sign has no name. -/
def pair (cs : List Char) : List Char × List Char :=
  let name := cs.takeWhile (· != '=')
  match cs.dropWhile (· != '=') with
  | [] => ([], Text.dropAround isHeaderBlank cs)
  | _ :: value => (Text.dropAround isHeaderBlank name, Text.dropAround isHeaderBlank value)

def values (header : String) : List (String × String) :=
  ((Text.parts ';' header.toList).map pair).map fun (name, value) =>
    (String.ofList name, String.ofList (unquote value))

def find? (name header : String) : Option String :=
  ((values header).reverse.find? fun entry => entry.1 == name).map Prod.snd

end Cookie
end Agenda
