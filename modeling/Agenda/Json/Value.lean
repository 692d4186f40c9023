import Agenda.Text.CodePoint
/-!
# JSON values

The values that request bodies, token segments and answers are made of.

* `JsonString` — a string of JSON. It may hold half of a surrogate pair without the other half; such a
  string is no text, and is told apart from every text.
* `Json` — a value. A number without fraction and exponent is an integer of any size; another number
  keeps its decimal form. The names `NaN`, `Infinity` and `-Infinity` are read as numbers, too.
* `Json.field?` — the value of a name in an object; of several the last one counts.
* `Json.hasNameInside` — whether an object anywhere in a value has a name.
* `Json.isReplaced` — whether a later field of an object takes the place of an earlier one.
-/

namespace Agenda

inductive JsonString
  | text (s : String)
  /-- A string among whose code points there is a lone half of a surrogate pair. -/
  | unpaired (points : List CodePoint)
deriving DecidableEq

namespace JsonString

def ofCodePoints (points : List CodePoint) : JsonString :=
  match CodePoint.chars? points with
  | some cs => text (String.ofList cs)
  | none => unpaired points

def text? : JsonString → Option String
  | text s => some s
  | unpaired _ => none

/-- The text that stands for a string where only its form matters. A string that is no text is shown by
the replacement character. -/
def shown : JsonString → String
  | text s => s
  | unpaired _ => "\uFFFD"

end JsonString

/-- A JSON value. -/
inductive Json
  | null
  | bool (b : Bool)
  | integer (n : Int)
  /-- The number `significand * 10 ^ exponent` or its negative, written with a fraction or an
  exponent. -/
  | decimal (negative : Bool) (significand : Nat) (exponent : Int)
  | infinity (negative : Bool)
  | notANumber
  | string (s : JsonString)
  | array (items : List Json)
  | object (fields : List (JsonString × Json))

namespace Json

instance : Inhabited Json := ⟨null⟩

def ofText (s : String) : Json :=
  string (.text s)

/-- An object whose names are texts. -/
def ofFields (fields : List (String × Json)) : Json :=
  object (fields.map fun (name, value) => (.text name, value))

/-- The value under a name in a list of fields; of several the last one counts. -/
def lookupLast (name : String) (fields : List (JsonString × Json)) : Option Json :=
  (fields.reverse.find? fun field => field.1 == .text name).map Prod.snd

def field? (name : String) : Json → Option Json
  | object fields => lookupLast name fields
  | _ => none

def string? : Json → Option JsonString
  | string s => some s
  | _ => none

def text? : Json → Option String
  | string (.text s) => some s
  | _ => none

/-- Whether a field is replaced by a later one of the same name. -/
def isReplaced (name : JsonString) (later : List (JsonString × Json)) : Bool :=
  later.any fun field => field.1 == name

mutual

/-- Whether some object in a value has a name. A field that is replaced by a later one of the same name
does not count. -/
def hasNameInside (name : String) : Json → Bool
  | array items => anyHasName name items
  | object fields => anyFieldHasName name fields
  | _ => false

def anyHasName (name : String) : List Json → Bool
  | [] => false
  | item :: rest => hasNameInside name item || anyHasName name rest

/-- Whether a list of fields, or some object in their values, has a name. -/
def anyFieldHasName (name : String) : List (JsonString × Json) → Bool
  | [] => false
  | (own, value) :: rest =>
      own == .text name || (!isReplaced own rest && hasNameInside name value)
        || anyFieldHasName name rest

end

end Json
end Agenda
