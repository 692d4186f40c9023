import Agenda.Json.Value
import Agenda.Number.ShortestDecimal
import Agenda.Text.Digit
/-!
# Writing JSON

The text of a value. Names and items are separated by a comma and a colon, each with a space after it
or without one. Characters outside ASCII stand for themselves, and a lone half of a surrogate pair is
escaped. A number with a fraction is written with as few digits as tell it apart.

* `JsonStyle` — the two separators; `JsonStyle.dense`, `JsonStyle.spaced`.
* `Json.write` — the text of a value.
-/

namespace Agenda

/-- What stands between the parts of a written value. -/
structure JsonStyle where
  between : List Char
  afterName : List Char

namespace JsonStyle

def dense : JsonStyle := ⟨[','], [':']⟩

def spaced : JsonStyle := ⟨[',', ' '], [':', ' ']⟩

end JsonStyle

namespace Json

/-- One character of a string: quotes, backslashes and controls are escaped. -/
def writeChar (c : Char) : List Char :=
  if c = '"' ∨ c = '\\' then ['\\', c]
  else if c = '\n' then ['\\', 'n']
  else if c = '\r' then ['\\', 'r']
  else if c = '\t' then ['\\', 't']
  else if c = '\x08' then ['\\', 'b']
  else if c = '\x0c' then ['\\', 'f']
  else if c.toNat < 0x20 then '\\' :: 'u' :: List.leftpad 4 '0' (Nat.toDigits 16 c.toNat)
  else [c]

/-- One code point of a string: a lone half of a surrogate pair is escaped. -/
def writeCodePoint : CodePoint → List Char
  | .char c => writeChar c
  | .loneHalf n => '\\' :: 'u' :: Nat.toDigits 16 n

def writeString : JsonString → List Char
  | .text s => '"' :: (s.toList.flatMap writeChar ++ ['"'])
  | .unpaired points => '"' :: (points.flatMap writeCodePoint ++ ['"'])

/-- The digits of a number with its point after a number of them: zeros fill the places up to the point,
and there is at least one digit on each side of it. -/
def writePositional (digits : List Char) (point : Int) : List Char :=
  if point ≤ 0 then '0' :: '.' :: (List.replicate (-point).toNat '0' ++ digits)
  else
    let whole := digits.take point.toNat
    let fraction := digits.drop point.toNat
    whole ++ List.replicate (point.toNat - whole.length) '0'
      ++ '.' :: (if fraction = [] then ['0'] else fraction)

/-- The digits of a number with its point after the first of them and a power of ten, which has a sign
and two digits at least. -/
def writeScientific (digits : List Char) (exponent : Int) : List Char :=
  let fraction := digits.drop 1
  digits.take 1 ++ (if fraction = [] then [] else '.' :: fraction)
    ++ 'e' :: (if exponent < 0 then '-' else '+') :: Text.padded 2 exponent.natAbs

/-- A positive number: positional from a ten-thousandth up to sixteen digits before the point, else
scientific. -/
def writePositive (q : Rat) : List Char :=
  let (significand, last) := Binary64.shortestDecimal q
  let digits := Text.decimal significand
  let point := (digits.length : Int) + last
  if -4 < point ∧ point ≤ 16 then writePositional digits point
  else writeScientific digits (point - 1)

/-- The number `significand * 10 ^ exponent` or its negative, as the shortest decimal that is read as
the same number. -/
def writeDecimal (negative : Bool) (significand : Nat) (exponent : Int) : List Char :=
  (if negative then ['-'] else [])
    ++ match Binary64.ofDecimal? significand exponent with
      | none => "Infinity".toList
      | some q => if q = 0 then "0.0".toList else writePositive q

mutual

def writeChars (style : JsonStyle) : Json → List Char
  | null => "null".toList
  | bool true => "true".toList
  | bool false => "false".toList
  | integer n => Text.signedDecimal n
  | decimal negative significand exponent => writeDecimal negative significand exponent
  | infinity false => "Infinity".toList
  | infinity true => "-Infinity".toList
  | notANumber => "NaN".toList
  | string s => writeString s
  | array items => '[' :: (writeItems style items ++ [']'])
  | object fields => '\x7b' :: (writeFields style fields ++ ['\x7d'])

def writeItems (style : JsonStyle) : List Json → List Char
  | [] => []
  | [item] => writeChars style item
  | item :: rest => writeChars style item ++ style.between ++ writeItems style rest

def writeFields (style : JsonStyle) : List (JsonString × Json) → List Char
  | [] => []
  | [(name, value)] => writeString name ++ style.afterName ++ writeChars style value
  | (name, value) :: rest =>
      writeString name ++ style.afterName ++ writeChars style value ++ style.between
        ++ writeFields style rest

end

def write (style : JsonStyle) (value : Json) : String :=
  String.ofList (writeChars style value)

end Json
end Agenda
