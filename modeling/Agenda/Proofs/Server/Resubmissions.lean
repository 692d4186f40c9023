import Agenda.Proofs.AcceptedAgain
import Agenda.Proofs.Server.Orderly
import Agenda.Proofs.Server.UnknownIds
/-!
# Rows that are sent back

A row that is read and sent back unchanged on the day on which it was written.  The row stays as it is: the
replacement is accepted, or it is refused because the rule of the row has no further date after the one that
the row has been moved to.

* `Server.Step.Writes` — a step has written a row; `Server.Step.Moves` — it has moved the date of the row.
* `Server.respond_readBack` — a row that is read is answered in full.
* `Server.respond_sentBack` — what sending a row back is answered.
* `Server.steps_sentBack` — what becomes of every row that a run has written.
-/

namespace Agenda

/-! ## What a request carries -/

namespace Request

variable {r : Request} {entry entry' : Entry} {text text' : String}

theorem Carries.unique {value value' : Json} (h : r.Carries value) (h' : r.Carries value') :
    value = value' :=
  Except.ok.inj (h.2.symm.trans h'.2)

/-- An entry is determined by the form of its texts. -/
theorem eq_of_ofEntry_eq (h : EntryForm.ofEntry entry = EntryForm.ofEntry entry') : entry = entry' := by
  rw [← EntryForm.shown_ofEntry entry, h, EntryForm.shown_ofEntry]

theorem Submits.unique (h : r.Submits entry) (h' : r.Submits entry') : entry = entry' := by
  obtain ⟨value, hcarries, hform⟩ := h
  obtain ⟨value', hcarries', hform'⟩ := h'
  rw [hcarries'.unique hcarries, hform] at hform'
  exact eq_of_ofEntry_eq (Option.some.inj hform')

theorem SubmitsFor.submits (h : r.SubmitsFor text entry) : r.Submits entry := by
  obtain ⟨value, hcarries, hform⟩ := h
  obtain ⟨form, hentry, hform⟩ := Option.bind_eq_some_iff.1 hform
  obtain ⟨id, -, hform⟩ := Option.bind_eq_some_iff.1 hform
  obtain ⟨-, rfl⟩ := AddressedForm.mk.inj (Option.some.inj hform)
  exact ⟨value, hcarries, hentry⟩

theorem SubmitsFor.text_unique (h : r.SubmitsFor text entry) (h' : r.SubmitsFor text' entry') :
    text = text' := by
  obtain ⟨value, hcarries, hform⟩ := h
  obtain ⟨value', hcarries', hform'⟩ := h'
  rw [hcarries'.unique hcarries, hform] at hform'
  obtain ⟨hid, -⟩ := AddressedForm.mk.inj (Option.some.inj hform')
  exact JsonString.text.inj hid

end Request

namespace Server

variable {config : ServerConfig} {now : Moment} {s : ServerState} {row : Row} {r : Request}

/-! ## Reading a row and sending it back -/

/-- A row that is read is answered with its id and its four texts. -/
theorem respond_readBack (hrow : row ∈ s.table.rows) (hreaches : r.Reaches .readTask)
    (hnamed : Text.readInteger (r.parameter "id").toList = some row.id)
    (hpasses : r.Passes config.settings.maxUploadSize)
    (hgate : config.settings.password = "" ∨ r.Admitted config.settings now) :
    respond config now s r = (Response.json 200 (rowJson row), s) := by
  have hlocate : s.table.locate (.text (r.parameter "id")) = .ok row :=
    Table.locate_eq_ok_iff.2 ⟨hrow, hnamed⟩
  rw [respond_of_reaches hpasses hgate hreaches rfl]
  simp only [serve, readTask, Table.lookup, hlocate]

/-- The form that the answer to a read row is. -/
theorem ofJson?_rowJson (row : Row) :
    AddressedForm.ofJson? (rowJson row)
      = some ⟨.text (String.ofList (Text.signedDecimal row.id)), .ofEntry row.entry⟩ := rfl

/-- Storing in a row what it holds already changes nothing. -/
theorem update_self (hrow : row ∈ s.table.rows) :
    s.table.update (.text (String.ofList (Text.signedDecimal row.id))) (.ofEntry row.entry)
      = .ok (row, s.table) := by
  have hlocate : s.table.locate (.text (String.ofList (Text.signedDecimal row.id))) = .ok row :=
    Table.locate_eq_ok_iff.2 ⟨hrow, IdInput.denotes_signedDecimal (s.table.inRange row hrow)⟩
  have hsame : s.table.replace row.id (fun _ => row.entry) = s.table := by
    apply Table.ext_entryAt?
    intro n
    rw [s.table.changesOnly_replace row.id (fun _ => row.entry) n, Table.entryAt?_of_mem hrow]
    split
    · next hn => rw [hn, Table.entryAt?_of_mem hrow]; rfl
    · rfl
  refine bind_eq_ok_iff.2 ⟨row, hlocate, bind_eq_ok_iff.2 ⟨row.entry, rfl, ?_⟩⟩
  rw [hsame]
  rfl

/-- The refusal of an entry of texts can always be told. -/
theorem refusedEntry_ofEntry {entry : Entry} {today : Date} {cause : EntryError}
    (hrefused : entry.normalize today = .error cause) :
    refusedEntry (.ofEntry entry) cause = Response.error 400 cause.message := by
  cases cause with
  | missingTitle => rfl
  | invalidDate => rfl
  | repetition cause =>
      cases cause with
      | noWeekday => exact absurd hrefused (Entry.normalize_ne_noWeekday today entry)
      | _ => rfl

/-- A row that is sent back as it was read is stored as it is, if its entry is accepted as it is, and
otherwise the request is refused with the reason why it is not. -/
theorem respond_sentBack (hrow : row ∈ s.table.rows) (hreaches : r.Reaches .replaceTask)
    (hcarries : r.Carries (rowJson row)) (hpasses : r.Passes config.settings.maxUploadSize)
    (hgate : config.settings.password = "" ∨ r.Admitted config.settings now)
    (hunchanged : ∀ again, row.entry.normalize now.day = .ok again → again = row.entry) :
    respond config now s r = match row.entry.normalize now.day with
      | .ok _ => (Response.done, s)
      | .error cause => (Response.error 400 cause.message, s) := by
  have hbody : Option.bind (some (rowJson row)) AddressedForm.ofJson?
      = some ⟨.text (String.ofList (Text.signedDecimal row.id)), .ofEntry row.entry⟩ := ofJson?_rowJson row
  rw [respond_of_reaches hpasses hgate hreaches (readBody_of_carries hcarries)]
  simp only [serve, replaceTask, hbody, EntryForm.shown_ofEntry]
  cases haccepted : row.entry.normalize now.day with
  | error cause =>
      simp only [refusedEntry_ofEntry haccepted]
  | ok again =>
      obtain rfl := hunchanged again haccepted
      have hupdate : s.table.update (.text (String.ofList (Text.signedDecimal row.id)))
          ((EntryForm.ofEntry row.entry).inputAt row.entry.date) = .ok (row, s.table) := update_self hrow
      simp only [AddressedForm.idInput, JsonString.shown, hupdate]

/-! ## Rows that a run has written -/

/-- The step has added, replaced or completed a row, and this is the row as it stands afterwards. -/
def Step.Writes (step : Step) (row : Row) : Prop :=
  step.response.status = 200 ∧ row ∈ step.after.table.rows
    ∧ ((step.request.Reaches .addTask ∧ step.before.table.entryAt? row.id = none)
      ∨ (step.request.Reaches .replaceTask
        ∧ ∃ text entry, step.request.SubmitsFor text entry
          ∧ Text.readInteger text.toList = some row.id)
      ∨ (step.request.Reaches .completeTask
        ∧ Text.readInteger (step.request.parameter "id").toList = some row.id))

/-- An answered request to add or to replace an entry has written a row. -/
theorem Step.exists_writes {step : Step}
    (heffect : Effect step.now.day step.request step.before.table step.response step.after.table)
    (hstatus : step.response.status = 200)
    (hreaches : step.request.Reaches .addTask ∨ step.request.Reaches .replaceTask) :
    ∃ row, step.Writes row := by
  have hpresent : ∀ {n : Int} {e : Entry}, step.after.table.entryAt? n = some e →
      ∃ row ∈ step.after.table.rows, row.id = n := by
    intro n e hentry
    obtain ⟨row, hrow, hid, -⟩ := Table.entryAt?_eq_some_iff.1 hentry
    exact ⟨row, hrow, hid⟩
  rcases hreaches with hreaches | hreaches
  · obtain ⟨entry, accepted, id, -, -, -, hnew, hchange⟩ := heffect.added_of_reaches hreaches hstatus
    obtain ⟨row, hrow, hid⟩ := hpresent hchange.entryAt?_self
    exact ⟨row, hstatus, hrow, Or.inl ⟨hreaches, by rw [hid]; exact hnew⟩⟩
  · obtain ⟨text, entry, accepted, n, old, hsubmits, -, hnamed, -, hchange⟩ :=
      heffect.replaced_of_reaches hreaches hstatus
    obtain ⟨row, hrow, hid⟩ := hpresent hchange.entryAt?_self
    exact ⟨row, hstatus, hrow, Or.inr (Or.inl ⟨hreaches, text, entry, hsubmits, by rw [hid]; exact hnamed⟩)⟩

/-- The step completes a task, or it submits an entry that repeats and whose date has passed. -/
def Step.Moves (step : Step) : Prop :=
  step.request.Reaches .completeTask
    ∨ ∃ entry, step.request.Submits entry ∧ entry.Moves step.now.day

/-- A row that an entry has been accepted for: the request moves what the entry does. -/
theorem sentBack_of_submits {step : Step} {entry accepted : Entry} {e : Endpoint}
    (htoday : 1000 ≤ step.now.day.year) (hreaches : step.request.Reaches e) (he : e ≠ .completeTask)
    (hsubmits : step.request.Submits entry) (haccepted : entry.normalize step.now.day = .ok accepted) :
    accepted.SentBack step.now.day step.Moves := by
  have hmoves : step.Moves ↔ entry.Moves step.now.day := by
    constructor
    · rintro (hdone | ⟨entry', hsubmits', hmoves⟩)
      · exact absurd (Endpoint.eq_of_reaches hreaches hdone) he
      · rwa [hsubmits.unique hsubmits']
    · intro hmoves
      exact Or.inr ⟨entry, hsubmits, hmoves⟩
  rw [hmoves]
  exact Entry.normalize_sentBack htoday haccepted

/-- Every row that a step writes on a day of year 1000 or later can be sent back on this day. -/
theorem Step.Writes.sentBack {step : Step} (hwrites : step.Writes row)
    (hbefore : step.before.table.InOrder) (htoday : 1000 ≤ step.now.day.year)
    (heffect : Effect step.now.day step.request step.before.table step.response step.after.table) :
    row.entry.SentBack step.now.day step.Moves := by
  obtain ⟨hstatus, hrow, hkind⟩ := hwrites
  have hentry := Table.entryAt?_of_mem hrow
  rcases hkind with ⟨hreaches, hnew⟩ | ⟨hreaches, text, submitted, hsubmitsFor, hnamed⟩ |
    ⟨hreaches, hnamed⟩
  · obtain ⟨entry, accepted, id, hsubmits, haccepted, -, -, hchange⟩ :=
      heffect.added_of_reaches hreaches hstatus
    -- The only new row is the one that has been added.
    have hid : row.id = id := by
      by_contra hother
      rw [hchange row.id, if_neg hother, hnew] at hentry
      cases hentry
    rw [hid, hchange.entryAt?_self] at hentry
    rw [← Option.some.inj hentry]
    exact sentBack_of_submits htoday hreaches (by decide) hsubmits haccepted
  · obtain ⟨text', entry, accepted, n, old, hsubmits, haccepted, hnamed', -, hchange⟩ :=
      heffect.replaced_of_reaches hreaches hstatus
    rw [← hsubmitsFor.text_unique hsubmits, hnamed] at hnamed'
    obtain rfl := Option.some.inj hnamed'
    rw [hchange.entryAt?_self] at hentry
    rw [← Option.some.inj hentry]
    exact sentBack_of_submits htoday hreaches (by decide) hsubmits.submits haccepted
  · obtain ⟨n, old, hnamed', hold, hdone⟩ := heffect.completed_of_reaches hreaches hstatus
    rw [hnamed] at hnamed'
    obtain rfl := Option.some.inj hnamed'
    rcases hdone with ⟨-, hchange⟩ | ⟨-, date, hdate, hchange⟩
    · rw [hchange.entryAt?_self] at hentry
      cases hentry
    · rw [hchange.entryAt?_self] at hentry
      rw [← Option.some.inj hentry]
      have htitle : old.title ≠ "" := (Table.inOrder_iff.1 hbefore _ _ hold).title
      exact Entry.SentBack.of_moved htoday htitle hdate (Or.inl hreaches)

/-- An entry that is accepted on a day of year 1000 or later is not changed when it is submitted again on this
day, and it is accepted again unless its date has been moved to the last date of its rule.

So it is with every row that a run of requests on the empty table has written: as long as it stands in the
table, reading it on the same day tells its id and texts, and sending these back leaves the table as it is,
with the answer for a replacement or with a refusal that tells why the row has no further date. -/
theorem steps_sentBack (config : ServerConfig) (attempts : Throttle) (requests : List (Moment × Request))
    (htimes : ∀ request ∈ requests, 1000 ≤ request.1.day.year) :
    (∀ (today : Date) (entry accepted : Entry), 1000 ≤ today.year → entry.normalize today = .ok accepted →
      accepted.SentBack today (entry.Moves today))
    ∧ ∀ step ∈ steps config ⟨Table.empty, attempts⟩ requests,
      (step.response.status = 200 → step.request.Reaches .addTask ∨ step.request.Reaches .replaceTask →
        ∃ row, step.Writes row)
      ∧ ∀ row, step.Writes row → row.entry.SentBack step.now.day step.Moves
      ∧ ∀ (s : ServerState) (now : Moment) (r : Request), row ∈ s.table.rows → now.day = step.now.day →
        r.Passes config.settings.maxUploadSize →
        (config.settings.password = "" ∨ r.Admitted config.settings now) →
        (r.Reaches .readTask → Text.readInteger (r.parameter "id").toList = some row.id →
          respond config now s r = (Response.json 200 (rowJson row), s))
        ∧ (r.Reaches .replaceTask → r.Carries (rowJson row) →
          respond config now s r = match row.entry.normalize now.day with
            | .ok _ => (Response.done, s)
            | .error cause => (Response.error 400 cause.message, s)) := by
  refine ⟨fun today entry accepted htoday haccepted => Entry.normalize_sentBack htoday haccepted, ?_⟩
  intro step hstep
  obtain ⟨hbefore, htoday, heffect⟩ := inOrder_of_mem_steps htimes hstep
  refine ⟨Step.exists_writes heffect, ?_⟩
  intro row hwrites
  have hsentBack := hwrites.sentBack hbefore htoday heffect
  refine ⟨hsentBack, ?_⟩
  intro s now r hrow hday hpasses hgate
  refine ⟨fun hreaches hnamed => respond_readBack hrow hreaches hnamed hpasses hgate,
    fun hreaches hcarries => respond_sentBack hrow hreaches hcarries hpasses hgate ?_⟩
  rw [hday]
  exact hsentBack.unchanged

/-- A task that is due every seven days is added late.  On the same day it is read and sent back. -/
theorem steps_sentBack_everySevenDays :
    let now := Moment.midnight ⟨2024, 1, 26, by decide⟩
    let config : ServerConfig := { settings := {} }
    let add : Request :=
      { method := "POST", path := "/api/task", contentType := some "application/json",
        payload := .announced
          (Text.utf8 "\x7b\"title\":\"water\",\"date\":\"20240101\",\"repeat\":\"d 7\"\x7d") }
    let step := Step.take config initial now add
    let row : Row := ⟨1, ⟨"20240129", "water", "", "d 7"⟩⟩
    let read : Request := { method := "GET", path := "/api/task", query := [("id", "1")] }
    let back : Request :=
      { method := "PUT", path := "/api/task", contentType := some "application/json"
        payload := .chunked [Text.utf8 ((rowJson row).write .dense)] }
    row ∈ step.after.table.rows
      ∧ respond config now step.after read = (Response.json 200 (rowJson row), step.after)
      ∧ respond config now step.after back = (Response.done, step.after) := by
  intro now config add step row read back
  have htimes : ∀ request ∈ [(now, add)], 1000 ≤ request.1.day.year := by decide
  have hstep : step ∈ steps config ⟨Table.empty, Throttle.empty⟩ [(now, add)] := List.mem_singleton.2 rfl
  have hstatus : step.response.status = 200 := by decide +kernel
  have hrow : row ∈ step.after.table.rows := by decide +kernel
  have hwrites : step.Writes row := ⟨hstatus, hrow, Or.inl ⟨⟨by decide, by decide⟩, by decide⟩⟩
  have hsent := (((steps_sentBack config Throttle.empty _ htimes).2 step hstep).2 row hwrites).2
    step.after now
  have hreadPasses : read.Passes config.settings.maxUploadSize :=
    Request.passes_of_content_eq_nil rfl (by decide)
  have hbackPasses : back.Passes config.settings.maxUploadSize :=
    (Request.screen_cases (Request.hasReadableLength_of_chunked rfl) _).2 (by decide +kernel)
  have hcarries : back.Carries (rowJson row) := by
    let fields := [("id", Json.ofText "1"), ("date", Json.ofText "20240129"), ("title", Json.ofText "water"),
      ("comment", Json.ofText ""), ("repeat", Json.ofText "d 7")]
    have hfields : rowJson row = Json.ofFields fields := by
      have hid : String.ofList (Text.signedDecimal 1) = "1" := by decide +kernel
      rw [rowJson, hid]
    have hplain : Json.ArePlain bodyLimits fields := by
      simp only [fields, Json.arePlain_cons]
      refine ⟨?_, .text ?_, ?_, .text ?_, ?_, .text ?_, ?_, .text ?_, ?_, .text ?_, by simp [Json.ArePlain]⟩ <;>
        simp [Json.IsPlainChar]
    refine ⟨by decide +kernel, ?_⟩
    rw [show back.content = Text.utf8 ((rowJson row).write .dense) from List.flatten_singleton, hfields]
    exact Json.parseBytes_write hplain (by decide) (by decide)
  have haccepted : row.entry.normalize now.day = .ok row.entry := by decide +kernel
  refine ⟨hrow, (hsent read hrow rfl hreadPasses (Or.inl rfl)).1 ⟨by decide, by decide⟩ (by decide +kernel), ?_⟩
  rw [(hsent back hrow rfl hbackPasses (Or.inl rfl)).2 ⟨by decide, by decide⟩ hcarries, haccepted]

/-- The rule for 29 February moves an entry to the leap day of the next year, and from there the two years that
are searched hold no other one.  The row that has been written is refused when it is sent back, and so it is
for a rule that leaves the calendar. -/
theorem steps_sentBack_leapDay :
    let today : Date := ⟨2023, 6, 1, by decide⟩
    let entry : Entry := ⟨"20230301", "t", "", "m 29 2"⟩
    let accepted : Entry := ⟨"20240229", "t", "", "m 29 2"⟩
    let add : Request :=
      { method := "POST", path := "/api/task", contentType := some "application/json",
        payload := .announced
          (Text.utf8 "\x7b\"title\":\"t\",\"date\":\"20230301\",\"repeat\":\"m 29 2\"\x7d") }
    let back : Request :=
      { method := "PUT", path := "/api/task", contentType := some "application/json",
        payload := .announced
          (Text.utf8 ("\x7b\"id\":\"1\",\"date\":\"20240229\",\"title\":\"t\","
            ++ "\"comment\":\"\",\"repeat\":\"m 29 2\"\x7d")) }
    let outcome := run { settings := {} } initial [(Moment.midnight today, add), (Moment.midnight today, back)]
    (entry.normalize today = .ok accepted
        ∧ accepted.normalize today = .error (.repetition (.noMatchingDay [2])))
      ∧ (outcome.1.map Response.status = [200, 400] ∧ outcome.2.table.rows = [⟨1, accepted⟩])
      ∧ Entry.normalize ⟨9999, 12, 15, by decide⟩ ⟨"99991201", "t", "", "d 30"⟩
        = .ok ⟨"99991231", "t", "", "d 30"⟩
      ∧ Entry.normalize ⟨9999, 12, 15, by decide⟩ ⟨"99991231", "t", "", "d 30"⟩
        = .error (.repetition
            (.beyondCalendar "d 30".toList ⟨9999, 12, 31, by decide⟩ .beyondLastDay)) := by
  decide +kernel

end Server
end Agenda
