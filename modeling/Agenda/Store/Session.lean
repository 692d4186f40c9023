import Agenda.Store.Command
/-!
# Sessions

Commands on the table as values, and what a sequence of them does. A session begins with the table
without rows and ends in the table that its commands leave behind.

* `TableCommand` — a command with its arguments.
* `TableReply` — what a command that succeeds answers.
* `Table.perform` — one command: its outcome and the table after it.
* `Table.performAll` — a sequence of commands.
-/

namespace Agenda

inductive TableCommand
  | insert (input : EntryInput)
  | lookup (id : IdInput)
  | list (limit : Int) (search : String)
  | update (id : IdInput) (input : EntryInput)
  | reschedule (id : IdInput) (date : FieldInput)
  | delete (id : IdInput)
deriving DecidableEq

inductive TableReply
  | added (id : Int)
  | row (r : Row)
  | rows (rs : List Row)
  | removed (id : Int)
deriving DecidableEq

namespace Table

/-- The outcome of a command that changes the table, and the table after it. -/
def settle {α : Type} (t : Table) (reply : α → TableReply) :
    Except StoreError (α × Table) → Except StoreError TableReply × Table
  | .ok (value, t') => (.ok (reply value), t')
  | .error cause => (.error cause, t)

/-- Perform a command; the drawn ids are for a new row. -/
def perform (t : Table) (drawn : List Int) : TableCommand → Except StoreError TableReply × Table
  | .insert input => t.settle .added (t.insert drawn input)
  | .lookup id => ((t.lookup id).map .row, t)
  | .list limit search => ((t.list limit search).map .rows, t)
  | .update id input => t.settle .row (t.update id input)
  | .reschedule id date => t.settle .row (t.reschedule id date)
  | .delete id => t.settle (fun r => .removed r.id) (t.delete id)

/-- Perform commands one after the other, with what is drawn for each of them; the outcomes in order, and the
table after them. -/
def performAll (t : Table) (drawn : Nat → List Int) :
    List TableCommand → List (Except StoreError TableReply) × Table
  | [] => ([], t)
  | command :: rest =>
      let (outcome, t') := t.perform (drawn 0) command
      let (outcomes, t'') := performAll t' (fun k => drawn (k + 1)) rest
      (outcome :: outcomes, t'')

end Table
end Agenda
