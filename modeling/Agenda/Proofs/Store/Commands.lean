import Agenda.Proofs.Store.Addressing
/-!
# What commands do to the entries

A command that succeeds changes the table at one id, and the id text that it is given denotes this id.

* `Table.lookup_text_eq_ok` — the row that an id text names.
* `Table.insert_eq_ok`, `Table.update_eq_ok`, `Table.reschedule_eq_ok`, `Table.delete_eq_ok` — one change
  for each command.
* `Table.reschedule_of_locate` — a row that is found is moved.
-/

namespace Agenda
namespace Table

variable {t t' : Table} {s : String} {r : Row}

/-- The row that a command addresses is the one whose id the text denotes. -/
theorem lookup_text_eq_ok (h : t.lookup (.text s) = .ok r) :
    Text.readInteger s.toList = some r.id ∧ t.entryAt? r.id = some r.entry := by
  obtain ⟨hr, hid⟩ := locate_eq_ok_iff.1 h
  exact ⟨hid, entryAt?_of_mem hr⟩

theorem insert_eq_ok {drawn : List Int} {input : EntryInput} {id : Int}
    (h : t.insert drawn input = .ok (id, t')) :
    ∃ e, input.forNewRow = .ok e ∧ t.entryAt? id = none ∧ t.ChangesOnly t' id (some e) := by
  unfold insert at h
  obtain ⟨e, he, h⟩ := bind_eq_ok_iff.1 h
  cases hadd : t.add? drawn e with
  | none =>
      rw [hadd] at h
      cases h
  | some result =>
      rw [hadd] at h
      obtain rfl := Except.ok.inj h
      obtain ⟨hfree, hchange⟩ := changesOnly_add hadd
      exact ⟨e, he, hfree, hchange⟩

theorem update_eq_ok {input : EntryInput} (h : t.update (.text s) input = .ok (r, t')) :
    ∃ n old e, Text.readInteger s.toList = some n ∧ t.entryAt? n = some old
      ∧ input.forExistingRow = .ok e ∧ t.ChangesOnly t' n (some e) := by
  unfold update at h
  obtain ⟨old, hold, h⟩ := bind_eq_ok_iff.1 h
  obtain ⟨e, he, h⟩ := bind_eq_ok_iff.1 h
  obtain ⟨-, rfl⟩ := Prod.mk.inj (Except.ok.inj h)
  obtain ⟨hid, hentry⟩ := lookup_text_eq_ok hold
  exact ⟨old.id, old.entry, e, hid, hentry, he, changesOnly_replace_of_mem (mem_rows_iff.2 hentry) _⟩

theorem reschedule_eq_ok {date : String} (h : t.reschedule (.text s) (.text date) = .ok (r, t')) :
    ∃ n old, Text.readInteger s.toList = some n ∧ t.entryAt? n = some old
      ∧ t.ChangesOnly t' n (some { old with date := date }) := by
  unfold reschedule at h
  obtain ⟨old, hold, h⟩ := bind_eq_ok_iff.1 h
  obtain ⟨-, rfl⟩ := Prod.mk.inj (Except.ok.inj h)
  obtain ⟨hid, hentry⟩ := lookup_text_eq_ok hold
  exact ⟨old.id, old.entry, hid, hentry, changesOnly_replace_of_mem (mem_rows_iff.2 hentry) _⟩

/-- A row that is found is moved to the date that is given. -/
theorem reschedule_of_locate {id : IdInput} (hlocate : t.locate id = .ok r) (date : String) :
    t.reschedule id (.text date) = .ok (⟨r.id, { r.entry with date := date }⟩,
      t.replace r.id fun entry => { entry with date := date }) :=
  bind_eq_ok_iff.2 ⟨r, hlocate, bind_eq_ok_iff.2 ⟨some date, rfl, rfl⟩⟩

theorem delete_eq_ok (h : t.delete (.text s) = .ok (r, t')) :
    ∃ n old, Text.readInteger s.toList = some n ∧ t.entryAt? n = some old
      ∧ t.ChangesOnly t' n none := by
  unfold delete at h
  obtain ⟨old, hold, h⟩ := bind_eq_ok_iff.1 h
  obtain ⟨-, rfl⟩ := Prod.mk.inj (Except.ok.inj h)
  obtain ⟨hid, hentry⟩ := lookup_text_eq_ok hold
  exact ⟨old.id, old.entry, hid, hentry, changesOnly_remove t old.id⟩

end Table
end Agenda
