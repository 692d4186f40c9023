import Agenda.Proofs.Server.Frames
/-!
# Tables that requests alone fill

A table that starts empty and is written by requests only, on days of year 1000 or later, holds entries in
order at all times: the dates that it keeps are the ones that later requests read back.  The days need not
ascend.

* `Table.InOrder` — all entries of a table are in order.
* `Server.Effect.inOrder` — no request spoils this.
* `Server.inOrder_of_mem_steps` — every step of such a run finds a table in order.
* `Server.Step.Orderly` — what holds of the table after a step, and of the row that the step writes.
* `Server.steps_orderly` — every step of such a run is orderly.
-/

namespace Agenda
namespace Table

/-- All entries of the table are in order. -/
def InOrder (t : Table) : Prop :=
  ∀ row ∈ t.rows, row.entry.InOrder

theorem inOrder_empty : Table.empty.InOrder := by
  intro row hrow
  cases hrow

theorem inOrder_iff {t : Table} : t.InOrder ↔ ∀ n e, t.entryAt? n = some e → e.InOrder := by
  constructor
  · intro ht n e he
    obtain ⟨row, hrow, -, rfl⟩ := entryAt?_eq_some_iff.1 he
    exact ht row hrow
  · intro ht row hrow
    exact ht row.id row.entry (entryAt?_of_mem hrow)

/-- A change that brings in no entry but one in order keeps a table in order. -/
theorem InOrder.of_changesOnly {t t' : Table} {n : Int} {entry : Option Entry} (ht : t.InOrder)
    (hchange : t.ChangesOnly t' n entry) (hentry : ∀ e, entry = some e → e.InOrder) : t'.InOrder := by
  rw [inOrder_iff] at ht ⊢
  intro m e he
  rw [hchange m] at he
  split at he
  · exact hentry e he
  · exact ht m e he

end Table

namespace Server

/-- A table in order is still in order after a row has been written on a day of year 1000 or later. -/
theorem Write.inOrder {today : Date} {r : Request} {t t' : Table} {e : Endpoint} {response : Response}
    (h : Write today r t e response t') (htoday : 1000 ≤ today.year) (ht : t.InOrder) : t'.InOrder := by
  cases h with
  | added _ haccepted _ hchange =>
      apply ht.of_changesOnly hchange
      rintro _ ⟨rfl⟩
      exact (Entry.inOrder_of_normalize htoday haccepted).1
  | replaced _ haccepted _ _ hchange =>
      apply ht.of_changesOnly hchange
      rintro _ ⟨rfl⟩
      exact (Entry.inOrder_of_normalize htoday haccepted).1
  | deleted _ _ hchange => exact ht.of_changesOnly hchange (by simp)
  | finished _ _ _ hchange => exact ht.of_changesOnly hchange (by simp)
  | moved _ hold _ hdate hchange =>
      -- Only the date of the entry is new.
      have hentry := Table.inOrder_iff.1 ht _ _ hold
      obtain ⟨d, hd, -⟩ := Entry.isDateText_of_nextDate htoday hdate
      apply ht.of_changesOnly hchange
      rintro _ ⟨rfl⟩
      exact ⟨hentry.title, ⟨d, hd⟩, hentry.rule⟩

/-- No request on such a day spoils a table in order. -/
theorem Effect.inOrder {today : Date} {r : Request} {t t' : Table} {response : Response}
    (h : Effect today r t response t') (htoday : 1000 ≤ today.year) (ht : t.InOrder) : t'.InOrder := by
  cases h with
  | refused => exact ht
  | readOnly => exact ht
  | written _ hwrite => exact hwrite.inOrder htoday ht

/-- What holds after a step: all entries of the table are in order, the one that has been added or replaced
is not dated before the day of the request, and the one that has been moved is dated after it. -/
structure Step.Orderly (step : Step) : Prop where
  rows : ∀ row ∈ step.after.table.rows, row.entry.InOrder
  added : step.request.Reaches .addTask → step.response.status = 200 →
    ∃ id entry d, step.response = newId id ∧ step.after.table.entryAt? id = some entry
      ∧ Compact.IsDateText entry.date d ∧ step.now.day ≤ d
  replaced : step.request.Reaches .replaceTask → step.response.status = 200 →
    ∃ s submitted n entry d, step.request.SubmitsFor s submitted ∧ Text.readInteger s.toList = some n
      ∧ step.after.table.entryAt? n = some entry
      ∧ Compact.IsDateText entry.date d ∧ step.now.day ≤ d
  moved : step.request.Reaches .completeTask → step.response.status = 200 →
    ∀ n entry, Text.readInteger (step.request.parameter "id").toList = some n →
      step.after.table.entryAt? n = some entry →
      ∃ d, Compact.IsDateText entry.date d ∧ step.now.day < d

theorem orderly_of_effect {step : Step}
    (h : Effect step.now.day step.request step.before.table step.response step.after.table)
    (htoday : 1000 ≤ step.now.day.year) (hbefore : step.before.table.InOrder) : step.Orderly where
  rows := h.inOrder htoday hbefore
  added hreaches hstatus := by
    obtain ⟨entry, accepted, id, -, haccepted, hresponse, -, hchange⟩ :=
      h.added_of_reaches hreaches hstatus
    obtain ⟨-, d, hd, hle⟩ := Entry.inOrder_of_normalize htoday haccepted
    exact ⟨id, accepted, d, hresponse, hchange.entryAt?_self, hd, hle⟩
  replaced hreaches hstatus := by
    obtain ⟨s, entry, accepted, n, old, hsubmits, haccepted, hnamed, -, hchange⟩ :=
      h.replaced_of_reaches hreaches hstatus
    obtain ⟨-, d, hd, hle⟩ := Entry.inOrder_of_normalize htoday haccepted
    exact ⟨s, entry, n, accepted, d, hsubmits, hnamed, hchange.entryAt?_self, hd, hle⟩
  moved hreaches hstatus := by
    intro n entry hn hentry
    obtain ⟨m, old, hnamed, -, hdone⟩ := h.completed_of_reaches hreaches hstatus
    rw [hn] at hnamed
    obtain rfl := Option.some.inj hnamed
    rcases hdone with ⟨-, hchange⟩ | ⟨-, date, hdate, hchange⟩
    · rw [hchange.entryAt?_self] at hentry
      cases hentry
    · rw [hchange.entryAt?_self] at hentry
      obtain rfl := Option.some.inj hentry
      exact Entry.isDateText_of_nextDate htoday hdate

/-- Every step of such a run, on days of year 1000 or later in any order, starts with a table in order. -/
theorem inOrder_of_mem_steps {config : ServerConfig} {attempts : Throttle}
    {requests : List (Moment × Request)} (htimes : ∀ request ∈ requests, 1000 ≤ request.1.day.year)
    {step : Step} (hstep : step ∈ steps config ⟨Table.empty, attempts⟩ requests) :
    step.before.table.InOrder ∧ 1000 ≤ step.now.day.year
      ∧ Effect step.now.day step.request step.before.table step.response step.after.table := by
  have hkept : ∀ (s : ServerState) (now : Moment) (r : Request), 1000 ≤ now.day.year →
      s.table.InOrder → (respond config now s r).2.table.InOrder := fun s now r hnow hs =>
    (respond_effect config now s r).inOrder hnow hs
  obtain ⟨s, now, r, hs, hnow, rfl⟩ := forall_mem_steps (fun s => s.table.InOrder)
    (fun now => 1000 ≤ now.day.year) hkept Table.inOrder_empty htimes step hstep
  exact ⟨hs, hnow, Step.take_effect config s now r⟩

/-- A run of requests on the empty table, on days of year 1000 or later in any order, is orderly at every
step. -/
theorem steps_orderly (config : ServerConfig) (attempts : Throttle) (requests : List (Moment × Request))
    (htimes : ∀ request ∈ requests, 1000 ≤ request.1.day.year) :
    ∀ step ∈ steps config ⟨Table.empty, attempts⟩ requests, step.Orderly := by
  intro step hstep
  obtain ⟨hbefore, htoday, heffect⟩ := inOrder_of_mem_steps htimes hstep
  exact orderly_of_effect heffect htoday hbefore

/-- A task is added late and completed on a clock that is set back by a quarter of a century. -/
theorem steps_orderly_backwardClock :
    let add : Request :=
      { method := "POST", path := "/api/task", contentType := some "application/json",
        payload := .announced
          (Text.utf8 "\x7b\"title\":\"water\",\"date\":\"20240101\",\"repeat\":\"d 7\"\x7d") }
    let done : Request := { method := "POST", path := "/api/task/done", query := [("id", "1")] }
    let requests := [(Moment.midnight ⟨2024, 1, 26, by decide⟩, add),
      (Moment.midnight ⟨1999, 12, 31, by decide⟩, done)]
    (∀ request ∈ requests, 1000 ≤ request.1.day.year)
      ∧ ∃ step ∈ steps { settings := {} } ⟨Table.empty, Throttle.empty⟩ requests,
        step.request = done ∧ step.response.status = 200
          ∧ step.after.table.entryAt? 1 = some ⟨"20240205", "water", "", "d 7"⟩
          ∧ ∃ d, Compact.IsDateText "20240205" d ∧ (⟨1999, 12, 31, by decide⟩ : Date) < d := by
  intro add done requests
  have htimes : ∀ request ∈ requests, 1000 ≤ request.1.day.year := by decide
  let step := Step.take { settings := {} }
    (respond { settings := {} } (Moment.midnight ⟨2024, 1, 26, by decide⟩) ⟨Table.empty, Throttle.empty⟩
      add).2
    (Moment.midnight ⟨1999, 12, 31, by decide⟩) done
  have hstep : step ∈ steps { settings := {} } ⟨Table.empty, Throttle.empty⟩ requests :=
    List.mem_cons_of_mem _ (List.mem_singleton.2 rfl)
  have hstatus : step.response.status = 200 := by decide +kernel
  have hone : Text.readInteger (done.parameter "id").toList = some 1 := by decide +kernel
  have hrow : step.after.table.entryAt? 1 = some ⟨"20240205", "water", "", "d 7"⟩ := by decide +kernel
  exact ⟨htimes, step, hstep, rfl, hstatus, hrow,
    (steps_orderly _ _ requests htimes step hstep).moved ⟨by decide, by decide⟩ hstatus 1 _ hone hrow⟩

end Server
end Agenda
