import Agenda.Json.Encoding
import Agenda.Json.Value
import Agenda.Text.Digit
/-!
# Reading JSON

The value that a text denotes, by the grammar of JSON.

* `JsonError` — why a text denotes no value.
* `JsonLimits` — how long integers may be, and how deeply values may be nested.
* `Json.parse` — the value of a text.
* `Json.parseBytes` — the value of a text given in bytes.

A value is read from the front of a list of code points, with the code points after it. A lone half of a
surrogate pair may stand in a string and nowhere else. The readers of nested values take a bound on their
steps; `Json.parse` gives a bound that no text exceeds.
-/

namespace Agenda

inductive JsonError
  | malformed
  | integerTooLong
  | nestedTooDeep
  /-- The bytes are no text in the encoding that they seem to have. -/
  | undecodable
deriving DecidableEq

structure JsonLimits where
  /-- The largest number of digits of an integer; nothing when there is no bound. -/
  digits : Option Nat := some 4300
  /-- The deepest nesting of arrays and objects. -/
  depth : Nat
deriving DecidableEq

namespace JsonLimits

def admitsDigits (limits : JsonLimits) (count : Nat) : Bool :=
  match limits.digits with
  | some most => count ≤ most
  | none => true

end JsonLimits

namespace Json

def isSpacing (p : CodePoint) : Bool :=
  p == .char ' ' || p == .char '\t' || p == .char '\n' || p == .char '\r'

def skipSpacing (ps : List CodePoint) : List CodePoint :=
  ps.dropWhile isSpacing

def hexDigit? : CodePoint → Option Nat
  | .char c =>
      match Text.asciiDigit? c with
      | some n => some n
      | none =>
          if 'a' ≤ c ∧ c ≤ 'f' then some (c.toNat - 'a'.toNat + 10)
          else if 'A' ≤ c ∧ c ≤ 'F' then some (c.toNat - 'A'.toNat + 10)
          else none
  | .loneHalf _ => none

/-- The number of four hexadecimal digits. -/
def hexUnit? (a b c d : CodePoint) : Option Nat := do
  let a ← hexDigit? a
  let b ← hexDigit? b
  let c ← hexDigit? c
  let d ← hexDigit? d
  pure (((a * 16 + b) * 16 + c) * 16 + d)

/-- The character that a one-letter escape stands for. -/
def shortEscape? (c : Char) : Option Char :=
  if c = '"' ∨ c = '\\' ∨ c = '/' then some c
  else if c = 'b' then some '\x08'
  else if c = 'f' then some '\x0c'
  else if c = 'n' then some '\n'
  else if c = 'r' then some '\r'
  else if c = 't' then some '\t'
  else none

/-- What has been read of a string. -/
structure PartialString where
  /-- The code points that have been read, the latest first. -/
  taken : List CodePoint
  /-- An escaped first half of a surrogate pair that has been read after them. -/
  high : Option Nat

namespace PartialString

def empty : PartialString := ⟨[], none⟩

/-- The code points so far; a first half that waits for the other one stays alone. -/
def points (s : PartialString) : List CodePoint :=
  match s.high with
  | some high => .loneHalf high :: s.taken
  | none => s.taken

def push (s : PartialString) (p : CodePoint) : PartialString :=
  ⟨p :: s.points, none⟩

/-- The string after an escaped unit. An escaped second half of a surrogate pair right after an escaped
first one makes a character with it. -/
def pushUnit (s : PartialString) (unit : Nat) : PartialString :=
  match s.high with
  | some high =>
      if Text.isLowSurrogate unit then ⟨.char (Text.joinHalves high unit) :: s.taken, none⟩
      else if Text.isHighSurrogate unit then ⟨s.points, some unit⟩
      else s.push (CodePoint.ofNumber unit)
  | none =>
      if Text.isHighSurrogate unit then ⟨s.taken, some unit⟩
      else s.push (CodePoint.ofNumber unit)

def finish (s : PartialString) : JsonString :=
  JsonString.ofCodePoints s.points.reverse

end PartialString

/-- A string up to its closing quote, with the code points after that. -/
def readString (s : PartialString) :
    List CodePoint → Except JsonError (JsonString × List CodePoint)
  | [] => .error .malformed
  | .char '"' :: rest => .ok (s.finish, rest)
  | .char '\\' :: .char 'u' :: a :: b :: c :: d :: rest =>
      match hexUnit? a b c d with
      | none => .error .malformed
      | some unit => readString (s.pushUnit unit) rest
  | .char '\\' :: .char e :: rest =>
      match shortEscape? e with
      | none => .error .malformed
      | some c => readString (s.push (.char c)) rest
  | .char c :: rest =>
      if c.toNat < 0x20 ∨ c = '\\' then .error .malformed
      else readString (s.push (.char c)) rest
  | .loneHalf n :: rest => readString (s.push (.loneHalf n)) rest

def digit? : CodePoint → Option Nat
  | .char c => Text.asciiDigit? c
  | .loneHalf _ => none

def spanDigits (ps : List CodePoint) : List Nat × List CodePoint :=
  ((ps.takeWhile fun p => (digit? p).isSome).filterMap digit?,
    ps.dropWhile fun p => (digit? p).isSome)

/-- The digits before the point of a number: a zero alone, or digits that begin with another one. -/
def wholeDigits : List CodePoint → Option (List Nat × List CodePoint)
  | .char '0' :: rest => some ([0], rest)
  | ps =>
      match spanDigits ps with
      | ([], _) => none
      | digits => some digits

def fractionDigits : List CodePoint → List Nat × List CodePoint
  | .char '.' :: rest =>
      match spanDigits rest with
      | ([], _) => ([], .char '.' :: rest)
      | digits => digits
  | ps => ([], ps)

def signedExponent : List CodePoint → Option (Int × List CodePoint)
  | .char '+' :: rest =>
      match spanDigits rest with
      | ([], _) => none
      | (digits, after) => some (Text.ofDigits digits, after)
  | .char '-' :: rest =>
      match spanDigits rest with
      | ([], _) => none
      | (digits, after) => some (-(Text.ofDigits digits : Int), after)
  | ps =>
      match spanDigits ps with
      | ([], _) => none
      | (digits, after) => some (Text.ofDigits digits, after)

def exponentPart (ps : List CodePoint) : Option Int × List CodePoint :=
  match ps with
  | p :: rest =>
      if p = .char 'e' ∨ p = .char 'E' then
        match signedExponent rest with
        | some (n, after) => (some n, after)
        | none => (none, ps)
      else (none, ps)
  | [] => (none, [])

def after? (word : String) (ps : List CodePoint) : Option (List CodePoint) :=
  (word.toList.map CodePoint.char).isPrefixOf? ps

def readMagnitude (limits : JsonLimits) (negative : Bool) (ps : List CodePoint) :
    Except JsonError (Json × List CodePoint) :=
  match wholeDigits ps with
  | none => .error .malformed
  | some (whole, rest) =>
      let (fraction, rest) := fractionDigits rest
      let (exponent, rest) := exponentPart rest
      if fraction = [] ∧ exponent = none then
        if limits.admitsDigits whole.length then
          .ok (integer (if negative then -(Text.ofDigits whole : Int) else Text.ofDigits whole), rest)
        else .error .integerTooLong
      else
        .ok (decimal negative (Text.ofDigits (whole ++ fraction))
          (exponent.getD 0 - fraction.length), rest)

/-- A value that is no string, array or object. -/
def readScalar (limits : JsonLimits) (ps : List CodePoint) :
    Except JsonError (Json × List CodePoint) :=
  match after? "null" ps, after? "true" ps, after? "false" ps, after? "NaN" ps,
      after? "Infinity" ps, after? "-Infinity" ps with
  | some rest, _, _, _, _, _ => .ok (null, rest)
  | _, some rest, _, _, _, _ => .ok (bool true, rest)
  | _, _, some rest, _, _, _ => .ok (bool false, rest)
  | _, _, _, some rest, _, _ => .ok (notANumber, rest)
  | _, _, _, _, some rest, _ => .ok (infinity false, rest)
  | _, _, _, _, _, some rest => .ok (infinity true, rest)
  | _, _, _, _, _, _ =>
      match ps with
      | .char '-' :: rest => readMagnitude limits true rest
      | ps => readMagnitude limits false ps

mutual

/-- A value, with the code points after it. `depth` arrays and objects are open around it. -/
def readValue (limits : JsonLimits) :
    (steps depth : Nat) → List CodePoint → Except JsonError (Json × List CodePoint)
  | 0, _, _ => .error .malformed
  | steps + 1, depth, ps =>
      match ps with
      | .char '"' :: rest => do
          let (s, after) ← readString PartialString.empty rest
          pure (string s, after)
      | .char '[' :: rest =>
          if limits.depth ≤ depth then .error .nestedTooDeep
          else
            match skipSpacing rest with
            | .char ']' :: after => .ok (array [], after)
            | inner => readItems limits steps (depth + 1) [] inner
      | .char '\x7b' :: rest =>
          if limits.depth ≤ depth then .error .nestedTooDeep
          else
            match skipSpacing rest with
            | .char '\x7d' :: after => .ok (object [], after)
            | inner => readFields limits steps (depth + 1) [] inner
      | ps => readScalar limits ps

/-- An array up to its closing bracket, after the items that have been taken from it, the latest
first. -/
def readItems (limits : JsonLimits) :
    (steps depth : Nat) → (taken : List Json) → List CodePoint →
      Except JsonError (Json × List CodePoint)
  | 0, _, _, _ => .error .malformed
  | steps + 1, depth, taken, ps => do
      let (item, rest) ← readValue limits steps depth ps
      match skipSpacing rest with
      | .char ']' :: after => pure (array (item :: taken).reverse, after)
      | .char ',' :: more => readItems limits steps depth (item :: taken) (skipSpacing more)
      | _ => .error .malformed

/-- An object up to its closing brace, after the fields that have been taken from it, the latest
first. -/
def readFields (limits : JsonLimits) :
    (steps depth : Nat) → (taken : List (JsonString × Json)) → List CodePoint →
      Except JsonError (Json × List CodePoint)
  | 0, _, _, _ => .error .malformed
  | steps + 1, depth, taken, ps =>
      match ps with
      | .char '"' :: rest => do
          let (name, rest) ← readString PartialString.empty rest
          match skipSpacing rest with
          | .char ':' :: rest =>
              let (value, rest) ← readValue limits steps depth (skipSpacing rest)
              match skipSpacing rest with
              | .char '\x7d' :: after => pure (object ((name, value) :: taken).reverse, after)
              | .char ',' :: more =>
                  readFields limits steps depth ((name, value) :: taken) (skipSpacing more)
              | _ => .error .malformed
          | _ => .error .malformed
      | _ => .error .malformed

end

def parse (limits : JsonLimits) (ps : List CodePoint) : Except JsonError Json := do
  let body := skipSpacing ps
  let (value, rest) ← readValue limits (2 * body.length + 2) 0 body
  match skipSpacing rest with
  | [] => pure value
  | _ => .error .malformed

def parseBytes (limits : JsonLimits) (bytes : Bytes) : Except JsonError Json :=
  match jsonText bytes with
  | some ps => parse limits ps
  | none => .error .undecodable

end Json
end Agenda
