import Agenda.Json.Value
import Agenda.Store.Search
import Agenda.Text.Integer
/-!
# Commands on the table

Reading and writing the table by ids and fields as callers give them. A command that fails leaves the
table as it was, because it returns no table.

* `IdInput`, `Table.locate` — the row that a given id addresses.
* `FieldInput` — a field as given: a text, nothing, a number, or something that cannot be stored.
* `Table.insert`, `Table.lookup`, `Table.list`, `Table.update`, `Table.reschedule`, `Table.delete` —
  the commands.
* `StoreError` — why a command fails.
-/

namespace Agenda

inductive StoreError
  | emptyId
  | notFound
  /-- A number does not fit in a signed 64-bit field. -/
  | numberTooLarge
  | missingField
  /-- A list or an object cannot be stored in a field. -/
  | unstorable
  /-- A string that is no text cannot be written. -/
  | unwritable
  | patternTooLong
  /-- No free id is found for a new row. -/
  | full
deriving DecidableEq

inductive IdInput
  | absent
  | number (n : Int)
  | text (s : String)
deriving DecidableEq

inductive FieldInput
  | text (s : String)
  | null
  | number (n : Int)
  | composite
  /-- A string with a lone half of a surrogate pair. -/
  | unpaired
deriving DecidableEq

structure EntryInput where
  date : FieldInput := .text ""
  title : FieldInput := .text ""
  comment : FieldInput := .text ""
  rule : FieldInput := .text ""
deriving DecidableEq

namespace IdInput

/-- The integer that an id denotes. A text that denotes none can be the id of no row. -/
def resolve : IdInput → Except StoreError Int
  | absent => .error .emptyId
  | number n => .ok n
  | text s =>
      if Text.trim s.toList = [] then .error .emptyId
      else
        match Text.readInteger s.toList with
        | some n => .ok n
        | none => .error .notFound

end IdInput

namespace FieldInput

/-- The stored form of a field, or nothing when the field is null. Numbers are stored in decimal. -/
def stored : FieldInput → Except StoreError (Option String)
  | text s => .ok (some s)
  | null => .ok none
  | number n =>
      if fitsRow n then .ok (some (String.ofList (Text.signedDecimal n)))
      else .error .numberTooLarge
  | composite => .error .unstorable
  | unpaired => .error .unwritable

def ofString : JsonString → FieldInput
  | .text s => text s
  | .unpaired _ => unpaired

end FieldInput

namespace EntryInput

def ofEntry (entry : Entry) : EntryInput :=
  ⟨.text entry.date, .text entry.title, .text entry.comment, .text entry.rule⟩

/-- The entry of a new row: a null field is stored as the empty text. -/
def forNewRow (input : EntryInput) : Except StoreError Entry := do
  let date ← input.date.stored
  let title ← input.title.stored
  let comment ← input.comment.stored
  let rule ← input.rule.stored
  pure ⟨date.getD "", title.getD "", comment.getD "", rule.getD ""⟩

/-- The entry of a row that exists: no field may be null. -/
def forExistingRow (input : EntryInput) : Except StoreError Entry := do
  let date ← input.date.stored
  let title ← input.title.stored
  let comment ← input.comment.stored
  let rule ← input.rule.stored
  -- All fields are bound before one of them is found missing.
  match date, title, comment, rule with
  | some date, some title, some comment, some rule => pure ⟨date, title, comment, rule⟩
  | _, _, _, _ => .error .missingField

end EntryInput

namespace Table

def locate (t : Table) (id : IdInput) : Except StoreError Row := do
  let n ← id.resolve
  if fitsRow n then
    match t.find? n with
    | some r => pure r
    | none => .error .notFound
  else .error .numberTooLarge

def insert (t : Table) (drawn : List Int) (input : EntryInput) : Except StoreError (Int × Table) := do
  let entry ← input.forNewRow
  match t.add? drawn entry with
  | some result => pure result
  | none => .error .full

def lookup (t : Table) (id : IdInput) : Except StoreError Row :=
  t.locate id

/-- The rows that a search selects, in the order of their dates, up to a limit. A pattern that is too
long is only noticed when there is a row to match. -/
def list (t : Table) (limit : Int) (search : String) : Except StoreError (List Row) :=
  let query := Query.ofSearch search
  if ¬ fitsRow limit then .error .numberTooLarge
  else if query.tooLong ∧ t.rows ≠ [] ∧ limit ≠ 0 then .error .patternTooLong
  else .ok (cutTo limit (byDate (t.rows.filter fun r => query.selects r.entry)))

def update (t : Table) (id : IdInput) (input : EntryInput) : Except StoreError (Row × Table) := do
  let r ← t.locate id
  let entry ← input.forExistingRow
  pure (⟨r.id, entry⟩, t.replace r.id fun _ => entry)

/-- Replace the date of the row that an id addresses. -/
def reschedule (t : Table) (id : IdInput) (date : FieldInput) :
    Except StoreError (Row × Table) := do
  let r ← t.locate id
  match ← date.stored with
  | some date =>
      pure (⟨r.id, { r.entry with date := date }⟩,
        t.replace r.id fun entry => { entry with date := date })
  | none => .error .missingField

def delete (t : Table) (id : IdInput) : Except StoreError (Row × Table) := do
  let r ← t.locate id
  pure (r, t.remove r.id)

end Table

namespace StoreError

/-- The HTTP status of the errors that a client is told about; the others are internal. -/
def status : StoreError → Nat
  | emptyId => 400
  | notFound => 404
  | _ => 500

def message : StoreError → String
  | emptyId => "id mustn't be empty"
  | notFound => "task not found"
  | _ => "internal server error"

end StoreError

end Agenda
