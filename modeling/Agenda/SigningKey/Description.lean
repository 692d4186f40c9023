import Agenda.Json.Reader
/-!
# Key descriptions

A key can be described by a JSON value, in which an object tells the type of the key under the name
`kty`.

* `KeyDescription.isIn` — whether bytes are such a value.
* `KeyDescription.mayBeIn` — what counts as a description among the texts that are nested too deeply to
  be read.
* `KeyDescription.stringsIn` — where the strings of a text begin.
-/

namespace Agenda
namespace KeyDescription

def typeName : String := "kty"

/-- How far a text is read: integers may have any number of digits. The depth is the one to which the segments of
a token are read. -/
def limits : JsonLimits := ⟨none, 987⟩

/-- What follows the opening quotes of the strings in a text, which need not be JSON as a whole. `inside`
tells whether the text begins inside of a string, where a quote after a backslash closes nothing. -/
def stringsIn : (inside : Bool) → List CodePoint → List (List CodePoint)
  | _, [] => []
  | true, .char '\\' :: _ :: rest => stringsIn true rest
  | inside, p :: rest =>
      if p = .char '"' then
        if inside then stringsIn false rest else rest :: stringsIn true rest
      else stringsIn inside rest

/-- Whether a text after an opening quote goes on with the name of the type, its closing quote and a
colon. -/
def namesType (ps : List CodePoint) : Bool :=
  match Json.readString .empty ps with
  | .ok (name, rest) =>
      name == .text typeName && (Json.skipSpacing rest).head? == some (.char ':')
  | .error _ => false

/-- Whether a text that is nested too deeply to be read is taken for a description: it begins as an
object, or one of its strings is the name of the type with a colon after it. -/
def mayBeIn (ps : List CodePoint) : Bool :=
  (Json.skipSpacing ps).head? == some (.char '\x7b') || (stringsIn false ps).any namesType

/-- Whether bytes are a JSON value in which an object tells the type of a key. -/
def isIn (bytes : Bytes) : Bool :=
  match jsonText bytes with
  | none => false
  | some ps =>
      match Json.parse limits ps with
      | .ok value => value.hasNameInside typeName
      | .error .nestedTooDeep => mayBeIn ps
      | .error _ => false

end KeyDescription
end Agenda
