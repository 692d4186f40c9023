import Agenda.Proofs.Recurrence.Errors
import Agenda.Proofs.Server.Bodies
import Agenda.Proofs.Server.Gate
/-!
# Completing a task and previewing its next date

A task that repeats moves to its next date when it is completed, and the preview tells the next date of any
date and rule.  Both ask the same question, and they agree on the answer for every row of every table,
whatever texts it holds.

* `Server.respond_of_content_eq_nil` — a request without a body comes straight to its endpoint.
* `Request.Completes`, `Request.Previews` — a request that completes a row, and one that asks for the next
  date of an entry.
* `Server.CompletionAgrees` — what it means that the two agree.
* `Server.respond_completionAgrees` — they agree.
-/

namespace Agenda

/-- The request completes the row with an id: it has no body, and its id text denotes this id. -/
structure Request.Completes (r : Request) (id : Int) : Prop where
  reaches : r.Reaches .completeTask
  bodiless : r.content = []
  named : Text.readInteger (r.parameter "id").toList = some id

/-- The request asks for the next date of an entry after the day of the clock. -/
structure Request.Previews (r : Request) (entry : Entry) : Prop where
  reaches : r.Reaches .previewDate
  bodiless : r.content = []
  date : r.parameter "date" = entry.date
  rule : r.parameter "repeat" = entry.rule
  now : r.parameter "now" = ""

namespace Server

/-- The completion of a row and the preview for its entry, both in the state `s`, agree: the row moves to
exactly the date that the preview tells, and nothing else changes, or both tell the same error. -/
structure CompletionAgrees (s : ServerState) (row : Row) (previewed completed : Response × ServerState) :
    Prop where
  reads : previewed.2 = s
  status : completed.1.status = 200 ↔ previewed.1.status = 200
  moved : previewed.1.status = 200 → ∃ date, previewed.1 = Response.text 200 date
    ∧ completed.1 = Response.done ∧ completed.2.attempts = s.attempts
    ∧ s.table.ChangesOnly completed.2.table row.id (some { row.entry with date := date })
  refused : previewed.1.status ≠ 200 → ∃ cause : NextDateError,
    previewed.1 = Response.text 400 ("failed to compute the new date: " ++ cause.message)
    ∧ completed = (Response.error 400 ("failed to compute the new date: " ++ cause.message), s)

variable {config : ServerConfig} {now : Moment} {s : ServerState} {row : Row} {r : Request}

/-- A request without a body comes to its endpoint whatever the limit is, as long as it is not negative. -/
theorem respond_of_content_eq_nil {e : Endpoint} (hreaches : r.Reaches e) (hcontent : r.content = [])
    (hlimit : 0 ≤ config.settings.maxUploadSize) :
    respond config now s r = enter config now r [] s e := by
  have hpasses := Request.passes_of_content_eq_nil hcontent hlimit
  rw [respond_of_passes config now s hpasses, hcontent, dispatch_of_reaches hreaches]

/-- The preview of an entry tells its next date after the day of the clock. -/
theorem respond_preview (hpreview : r.Previews row.entry) (hlimit : 0 ≤ config.settings.maxUploadSize) :
    respond config now s r = match nextDate now.day row.entry.date row.entry.rule with
      | .error cause => (Response.text 400 (noNextDate cause), s)
      | .ok date => (Response.text 200 date, s) := by
  rw [respond_of_content_eq_nil hpreview.reaches hpreview.bodiless hlimit]
  have henter : enter config now r [] s .previewDate = (previewDate now r, s) := rfl
  rw [henter, previewDate, hpreview.now, hpreview.date, hpreview.rule]
  simp only [if_true]
  cases hnext : nextDate now.day row.entry.date row.entry.rule with
  | error cause =>
      cases cause with
      | noWeekday => exact absurd hnext (nextDate_ne_noWeekday _ _ _)
      | _ => rfl
  | ok date => rfl

/-- A row that repeats is moved to its next date after the day of the clock. -/
theorem respond_completion (hcompletes : r.Completes row.id) (hrow : row ∈ s.table.rows)
    (hrule : row.entry.rule ≠ "") (hlimit : 0 ≤ config.settings.maxUploadSize)
    (hgate : config.settings.password = "" ∨ r.Admitted config.settings now) :
    respond config now s r = match nextDate now.day row.entry.date row.entry.rule with
      | .error cause => (Response.error 400 (noNextDate cause), s)
      | .ok date => (Response.done,
          { s with table := s.table.replace row.id fun entry => { entry with date := date } }) := by
  have hlocate : s.table.locate (.text (r.parameter "id")) = .ok row :=
    Table.locate_eq_ok_iff.2 ⟨hrow, hcompletes.named⟩
  have henter : enter config now r [] s .completeTask
      = ((completeTask now r s.table).1, { s with table := (completeTask now r s.table).2 }) := by
    have hrefusal : refusal config.settings now r = none := refusal_eq_none_iff.2 hgate
    simp only [enter, Endpoint.readsBody, Endpoint.guarded, hrefusal, serve, if_true, Bool.false_eq_true,
      if_false]
  rw [respond_of_content_eq_nil hcompletes.reaches hcompletes.bodiless hlimit, henter]
  simp only [completeTask, Table.lookup, hlocate, if_neg hrule]
  cases hnext : nextDate now.day row.entry.date row.entry.rule with
  | error cause =>
      cases cause with
      | noWeekday => exact absurd hnext (nextDate_ne_noWeekday _ _ _)
      | _ => rfl
  | ok date =>
      simp only [Table.reschedule_of_locate hlocate]

/-- The completion of a row that repeats agrees with the preview of its next date. -/
theorem respond_completionAgrees {done preview : Request} (hcompletes : done.Completes row.id)
    (hpreview : preview.Previews row.entry) (hrow : row ∈ s.table.rows) (hrule : row.entry.rule ≠ "")
    (hlimit : 0 ≤ config.settings.maxUploadSize)
    (hgate : config.settings.password = "" ∨ done.Admitted config.settings now) :
    CompletionAgrees s row (respond config now s preview) (respond config now s done) := by
  rw [respond_preview hpreview hlimit, respond_completion hcompletes hrow hrule hlimit hgate]
  cases nextDate now.day row.entry.date row.entry.rule with
  | error cause =>
      exact
        { reads := rfl
          status := Iff.rfl
          moved := fun h => absurd h (show ¬ 400 = 200 by decide)
          refused := fun _ => ⟨cause, rfl, rfl⟩ }
  | ok date =>
      have hchange := s.table.changesOnly_replace row.id fun entry => { entry with date := date }
      rw [Table.entryAt?_of_mem hrow] at hchange
      exact
        { reads := rfl
          status := Iff.rfl
          moved := fun _ => ⟨date, rfl, rfl, rfl, hchange⟩
          refused := fun h => absurd rfl h }

/-- Two rows that no request could have written: one moves, and the other does not. -/
theorem respond_completionAgrees_strangeRows :
    let table : Table :=
      ⟨[⟨-3, ⟨"20240131", "water", "", "d 2"⟩⟩, ⟨7, ⟨"soon", "", "", "?"⟩⟩], by decide, by decide⟩
    let s : ServerState := ⟨table, Throttle.empty⟩
    let now := Moment.midnight ⟨2024, 2, 28, by decide⟩
    let answer := fun method path query =>
      respond { settings := {} } now s { method := method, path := path, query := query }
    CompletionAgrees s ⟨-3, ⟨"20240131", "water", "", "d 2"⟩⟩
        (answer "GET" "/api/nextdate" [("date", "20240131"), ("repeat", "d 2")])
        (answer "POST" "/api/task/done" [("id", " -3")])
      ∧ CompletionAgrees s ⟨7, ⟨"soon", "", "", "?"⟩⟩
        (answer "GET" "/api/nextdate" [("repeat", "?"), ("date", "soon")])
        (answer "POST" "/api/task/done" [("id", "+7")]) := by
  intro table s now answer
  constructor
  · exact respond_completionAgrees ⟨⟨by decide, by decide⟩, rfl, by decide +kernel⟩
      ⟨⟨by decide, by decide⟩, rfl, by decide, by decide, by decide⟩ (by decide) (by decide) (by decide)
      (Or.inl rfl)
  · exact respond_completionAgrees ⟨⟨by decide, by decide⟩, rfl, by decide +kernel⟩
      ⟨⟨by decide, by decide⟩, rfl, by decide, by decide, by decide⟩ (by decide) (by decide) (by decide)
      (Or.inl rfl)

end Server
end Agenda
