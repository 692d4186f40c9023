import Agenda.Store.Command
/-!
# Forms

What the body of a request says about an entry or a sign-in. A form is a JSON object with strings as
fields; a field that is missing is empty, and fields of other names are ignored.

* `EntryForm` — the fields of an entry; `AddressedForm` — the same with the id of a row.
* `EntryForm.ofJson?`, `AddressedForm.ofJson?`, `passwordOf?` — the form that a value is.
* `EntryForm.shown` — the entry that is checked; `EntryForm.inputAt` — the fields that are stored.

A string that is no text passes as a field. It is no date, no rule and no id, and it cannot be stored.
-/

namespace Agenda

structure EntryForm where
  date : JsonString
  title : JsonString
  comment : JsonString
  rule : JsonString
deriving DecidableEq

/-- The fields of an entry as they are submitted, with the id of the row that they are meant for. -/
structure AddressedForm where
  id : JsonString
  entry : EntryForm
deriving DecidableEq

/-- The string in a field of a form. -/
def formField (name : String) (form : Json) : Option JsonString :=
  match form.field? name with
  | none => some (.text "")
  | some value => value.string?

def passwordOf? (form : Json) : Option JsonString :=
  match form with
  | .object _ => formField "password" form
  | _ => none

namespace EntryForm

def ofJson? (form : Json) : Option EntryForm :=
  match form with
  | .object _ => do
      let date ← formField "date" form
      let title ← formField "title" form
      let comment ← formField "comment" form
      let rule ← formField "repeat" form
      pure ⟨date, title, comment, rule⟩
  | _ => none

def ofEntry (entry : Entry) : EntryForm :=
  ⟨.text entry.date, .text entry.title, .text entry.comment, .text entry.rule⟩

/-- The entry that a form shows. -/
def shown (form : EntryForm) : Entry :=
  ⟨form.date.shown, form.title.shown, form.comment.shown, form.rule.shown⟩

/-- The fields to store for a form whose date has been put in order. -/
def inputAt (form : EntryForm) (date : String) : EntryInput :=
  ⟨.text date, .ofString form.title, .ofString form.comment, .ofString form.rule⟩

/-- A form of texts shows its entry. -/
theorem shown_ofEntry (entry : Entry) : (ofEntry entry).shown = entry := rfl

end EntryForm

namespace AddressedForm

def ofJson? (form : Json) : Option AddressedForm := do
  let entry ← EntryForm.ofJson? form
  let id ← formField "id" form
  pure ⟨id, entry⟩

def idInput (form : AddressedForm) : IdInput :=
  .text form.id.shown

end AddressedForm

end Agenda
