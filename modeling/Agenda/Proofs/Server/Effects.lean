import Agenda.Proofs.Server.Submissions
import Agenda.Proofs.Store.Commands
/-!
# What a request does to the table

Each request leaves the table as it is or makes one change to it, and the answer tells which.  The change is
said of the request and of the entries before and after it, not through the endpoints that carry it out.

* `Server.Write` — the ways in which a request can write to the table, with the endpoint of each.
* `Server.Effect` — what a request can do to the table: leave it alone, or write to it.
* `Server.respond_dispatch_cases`, `Server.enter_cases` — where a request is answered on its way to the table.
* `Server.respond_effect` — every request acts in one of these ways.
-/

namespace Agenda

/-- Whether an endpoint may write to the table. -/
def Endpoint.writes : Endpoint → Bool
  | addTask | replaceTask | deleteTask | completeTask => true
  | _ => false

namespace Server

/-- The answer that tells the id of a new row. -/
def newId (id : Int) : Response :=
  Response.json 200 (Json.ofFields [("id", .ofText (String.ofList (Text.signedDecimal id)))])

/-- How a request on a day writes to the table `t` at an endpoint: the answer, and the table after it. -/
inductive Write (today : Date) (r : Request) (t : Table) : Endpoint → Response → Table → Prop
  /-- A row is added. -/
  | added {entry accepted : Entry} {id : Int} {t' : Table} (hsubmits : r.Submits entry)
      (haccepted : entry.normalize today = .ok accepted) (hnew : t.entryAt? id = none)
      (hchange : t.ChangesOnly t' id (some accepted)) : Write today r t .addTask (newId id) t'
  /-- The entry of a row is replaced. -/
  | replaced {s : String} {n : Int} {entry old accepted : Entry} {t' : Table}
      (hsubmits : r.SubmitsFor s entry) (haccepted : entry.normalize today = .ok accepted)
      (hnamed : Text.readInteger s.toList = some n) (hold : t.entryAt? n = some old)
      (hchange : t.ChangesOnly t' n (some accepted)) : Write today r t .replaceTask Response.done t'
  /-- A row is removed on demand. -/
  | deleted {n : Int} {old : Entry} {t' : Table}
      (hnamed : Text.readInteger (r.parameter "id").toList = some n) (hold : t.entryAt? n = some old)
      (hchange : t.ChangesOnly t' n none) : Write today r t .deleteTask Response.done t'
  /-- A row that does not repeat is completed and removed. -/
  | finished {n : Int} {old : Entry} {t' : Table}
      (hnamed : Text.readInteger (r.parameter "id").toList = some n) (hold : t.entryAt? n = some old)
      (hrule : old.rule = "") (hchange : t.ChangesOnly t' n none) :
      Write today r t .completeTask Response.done t'
  /-- A row that repeats is completed and moves to its next date. -/
  | moved {n : Int} {old : Entry} {date : String} {t' : Table}
      (hnamed : Text.readInteger (r.parameter "id").toList = some n) (hold : t.entryAt? n = some old)
      (hrule : old.rule ≠ "") (hdate : nextDate today old.date old.rule = .ok date)
      (hchange : t.ChangesOnly t' n (some { old with date := date })) :
      Write today r t .completeTask Response.done t'

/-- What a request on a day does to the table `t`: the answer, and the table after it. -/
inductive Effect (today : Date) (r : Request) (t : Table) : Response → Table → Prop
  /-- The request is refused. -/
  | refused {response : Response} (hstatus : 400 ≤ response.status) : Effect today r t response t
  /-- The request reaches no endpoint that writes. -/
  | readOnly {response : Response} (hreads : ∀ e, r.Reaches e → e.writes = false) :
      Effect today r t response t
  /-- The request reaches an endpoint that writes, and it is answered. -/
  | written {e : Endpoint} {response : Response} {t' : Table} (hreaches : r.Reaches e)
      (hwrite : Write today r t e response t') : Effect today r t response t'

/-! ## Refusals -/

@[simp] theorem status_error (status : Nat) (message : String) :
    (Response.error status message).status = status := rfl

@[simp] theorem status_detail (status : Nat) (message : String) :
    (Response.detail status message).status = status := rfl

@[simp] theorem status_badBody : Response.badBody.status = 400 := rfl

@[simp] theorem status_bodyTooLarge : Response.bodyTooLarge.status = 413 := rfl

@[simp] theorem status_internal : Response.internal.status = 500 := rfl

@[simp] theorem status_misconfigured : Response.misconfigured.status = 500 := rfl

/-- An error of the server is told apart from others by its status or its message. -/
theorem error_eq_error_iff {status status' : Nat} {message message' : String} :
    Response.error status message = Response.error status' message' ↔ status = status' ∧ message = message' := by
  constructor
  · intro h
    have hbody := congrArg Response.body h
    simp only [Response.error, Response.json, Json.ofFields, Json.ofText, ResponseBody.json.injEq,
      Json.object.injEq, List.map_cons, List.map_nil, List.cons.injEq, Prod.mk.injEq, Json.string.injEq,
      JsonString.text.injEq] at hbody
    exact ⟨congrArg Response.status h, hbody.1.2⟩
  · rintro ⟨rfl, rfl⟩
    rfl

theorem ne_misconfigured_of_status {response : Response} (hstatus : response.status ≠ 500) :
    response ≠ Response.misconfigured := by
  rintro rfl
  exact hstatus rfl

theorem internal_ne_misconfigured : Response.internal ≠ Response.misconfigured := by
  intro h
  exact absurd (error_eq_error_iff.1 h).2 (by decide)

theorem status_storeFailure (e : StoreError) : 400 ≤ (storeFailure e).status := by
  cases e <;> simp [storeFailure, StoreError.status]

theorem status_refusedEntry (form : EntryForm) (cause : EntryError) :
    400 ≤ (refusedEntry form cause).status := by
  unfold refusedEntry
  split <;> simp

/-- A body that cannot be read is a fault of the request. -/
theorem status_readBody {r : Request} {content : Bytes} {response : Response}
    (h : readBody r content = .error response) : response.status = 400 := by
  unfold readBody at h
  split at h
  · cases h
  · split at h
    · cases h
    · rw [← Except.error.inj h]
      simp
    · rw [← Except.error.inj h]
      simp

/-- What the gate tells a request that may not go on: its token is not accepted, or the server cannot check
tokens. -/
theorem refusal_cases {settings : Settings} {now : Moment} {r : Request} {response : Response}
    (h : refusal settings now r = some response) :
    settings.password ≠ ""
      ∧ ((∃ message, response = Response.error 401 message)
        ∨ (settings.secretKey = "" ∧ response = Response.misconfigured)
        ∨ response = Response.internal) := by
  unfold refusal at h
  split at h
  · cases h
  · next henabled =>
      have hpassword : settings.password ≠ "" := by simpa [Settings.authEnabled] using henabled
      refine ⟨hpassword, ?_⟩
      split at h
      · exact Or.inl ⟨_, (Option.some.inj h).symm⟩
      · split at h
        · exact Or.inl ⟨_, (Option.some.inj h).symm⟩
        · split at h
          · next hkey => exact Or.inr (Or.inl ⟨hkey, (Option.some.inj h).symm⟩)
          · split at h
            · cases h
            · exact Or.inr (Or.inr (Option.some.inj h).symm)
            · exact Or.inr (Or.inr (Option.some.inj h).symm)
            · exact Or.inl ⟨_, (Option.some.inj h).symm⟩

theorem status_refusal {settings : Settings} {now : Moment} {r : Request} {response : Response}
    (h : refusal settings now r = some response) : 400 ≤ response.status := by
  obtain ⟨-, ⟨message, rfl⟩ | ⟨-, rfl⟩ | rfl⟩ := refusal_cases h <;> simp

/-! ## The endpoints that write -/

section

variable (now : Moment) {r : Request} {body : Option Json} (t : Table)

theorem addTask_effect (drawn : List Int) (hreaches : r.Reaches .addTask)
    (hbody : ∀ value, body = some value → r.Carries value) :
    Effect now.day r t (addTask drawn now body t).1 (addTask drawn now body t).2 := by
  unfold addTask
  cases hform : body.bind EntryForm.ofJson? with
  | none => exact Effect.refused (by simp)
  | some form =>
      obtain ⟨value, hvalue, hjson⟩ := Option.bind_eq_some_iff.1 hform
      simp only
      cases haccepted : form.shown.normalize now.day with
      | error cause => exact Effect.refused (status_refusedEntry form cause)
      | ok accepted =>
          simp only
          cases hinsert : t.insert drawn (form.inputAt accepted.date) with
          | error cause => exact Effect.refused (status_storeFailure cause)
          | ok result =>
              obtain ⟨id, t'⟩ := result
              obtain ⟨stored, hstored, hnew, hchange⟩ := Table.insert_eq_ok hinsert
              rw [EntryForm.inputAt_forNewRow] at hstored
              obtain ⟨entry, rfl, hentry⟩ := EntryForm.eq_ofEntry_of_stored haccepted
                (EntryForm.inputAt_forExistingRow_eq_ok hstored)
              exact Effect.written hreaches
                (Write.added ⟨value, hbody value hvalue, hjson⟩ hentry hnew hchange)

theorem replaceTask_effect (hreaches : r.Reaches .replaceTask)
    (hbody : ∀ value, body = some value → r.Carries value) :
    Effect now.day r t (replaceTask now body t).1 (replaceTask now body t).2 := by
  unfold replaceTask
  cases hform : body.bind AddressedForm.ofJson? with
  | none => exact Effect.refused (by simp)
  | some form =>
      obtain ⟨value, hvalue, hjson⟩ := Option.bind_eq_some_iff.1 hform
      simp only
      cases haccepted : form.entry.shown.normalize now.day with
      | error cause => exact Effect.refused (status_refusedEntry form.entry cause)
      | ok accepted =>
          simp only
          cases hupdate : t.update form.idInput (form.entry.inputAt accepted.date) with
          | error cause => exact Effect.refused (status_storeFailure cause)
          | ok result =>
              obtain ⟨row, t'⟩ := result
              obtain ⟨n, old, stored, hnamed, hold, hstored, hchange⟩ := Table.update_eq_ok hupdate
              obtain ⟨entry, hentryForm, hentry⟩ := EntryForm.eq_ofEntry_of_stored haccepted
                (EntryForm.inputAt_forExistingRow_eq_ok hstored)
              -- What stands for an id that is no text denotes no integer.
              have hid : ∃ s, form.id = .text s := by
                cases hid : form.id with
                | text s => exact ⟨s, rfl⟩
                | unpaired points =>
                    have hshown : form.id.shown = "\uFFFD" := by
                      rw [hid]
                      rfl
                    have hnone : Text.readInteger "\uFFFD".toList = none := by decide
                    rw [hshown, hnone] at hnamed
                    cases hnamed
              obtain ⟨s, hs⟩ := hid
              have hforms : form = ⟨.text s, .ofEntry entry⟩ := by
                rw [← hs, ← hentryForm]
              rw [hs] at hnamed
              rw [hforms] at hjson
              exact Effect.written hreaches
                (Write.replaced ⟨value, hbody value hvalue, hjson⟩ hentry hnamed hold hchange)

theorem deleteTask_effect (hreaches : r.Reaches .deleteTask) :
    Effect now.day r t (deleteTask r t).1 (deleteTask r t).2 := by
  unfold deleteTask
  cases hdelete : t.delete (.text (r.parameter "id")) with
  | error cause => exact Effect.refused (status_storeFailure cause)
  | ok result =>
      obtain ⟨row, t'⟩ := result
      obtain ⟨n, old, hnamed, hold, hchange⟩ := Table.delete_eq_ok hdelete
      exact Effect.written hreaches (Write.deleted hnamed hold hchange)

theorem completeTask_effect (hreaches : r.Reaches .completeTask) :
    Effect now.day r t (completeTask now r t).1 (completeTask now r t).2 := by
  unfold completeTask
  simp only
  cases hlookup : t.lookup (.text (r.parameter "id")) with
  | error cause => exact Effect.refused (status_storeFailure cause)
  | ok row =>
      obtain ⟨hid, hentry⟩ := Table.lookup_text_eq_ok hlookup
      simp only
      by_cases hrule : row.entry.rule = ""
      · rw [if_pos hrule]
        cases hdelete : t.delete (.text (r.parameter "id")) with
        | error cause => exact Effect.refused (status_storeFailure cause)
        | ok result =>
            obtain ⟨row', t'⟩ := result
            obtain ⟨n, old, hnamed, hold, hchange⟩ := Table.delete_eq_ok hdelete
            rw [hid] at hnamed
            obtain rfl := Option.some.inj hnamed
            exact Effect.written hreaches (Write.finished hid hentry hrule hchange)
      · rw [if_neg hrule]
        cases hdate : nextDate now.day row.entry.date row.entry.rule with
        | error cause =>
            cases cause <;> exact Effect.refused (by simp)
        | ok date =>
            simp only
            cases hmove : t.reschedule (.text (r.parameter "id")) (.text date) with
            | error cause => exact Effect.refused (status_storeFailure cause)
            | ok result =>
                obtain ⟨row', t'⟩ := result
                obtain ⟨n, old, hnamed, hold, hchange⟩ := Table.reschedule_eq_ok hmove
                rw [hid] at hnamed
                obtain rfl := Option.some.inj hnamed
                rw [hentry] at hold
                obtain rfl := Option.some.inj hold
                exact Effect.written hreaches (Write.moved hid hentry hrule hdate hchange)

end

/-! ## All requests -/

theorem serve_effect (config : ServerConfig) (now : Moment) {r : Request} {body : Option Json}
    (s : ServerState) {e : Endpoint} (he : r.Reaches e)
    (hbody : ∀ value, body = some value → r.Carries value) :
    Effect now.day r s.table (serve config now r body s e).1 (serve config now r body s e).2.table := by
  -- The request reaches this endpoint only.
  have hreads : e.writes = false → ∀ e', r.Reaches e' → e'.writes = false := by
    intro hwrites e' he'
    rw [Endpoint.eq_of_reaches he' he]
    exact hwrites
  cases e with
  | addTask => exact addTask_effect now s.table (config.drawnIds now) he hbody
  | replaceTask => exact replaceTask_effect now s.table he hbody
  | deleteTask =>
      simp only [serve]
      exact deleteTask_effect now s.table he
  | completeTask =>
      simp only [serve]
      exact completeTask_effect now s.table he
  | health => exact Effect.readOnly (hreads rfl)
  | signIn => exact Effect.readOnly (hreads rfl)
  | previewDate => exact Effect.readOnly (hreads rfl)
  | listTasks => exact Effect.readOnly (hreads rfl)
  | readTask => exact Effect.readOnly (hreads rfl)
  | description page => exact Effect.readOnly (hreads rfl)

theorem carries_of_readBody {r : Request} {value : Json} (h : readBody r r.content = .ok (some value)) :
    r.Carries value := by
  unfold readBody at h
  split at h
  · cases h
  · next hdeclared =>
      have hjson : r.isJson = true := by
        by_contra hnot
        exact hdeclared (Or.inr hnot)
      split at h
      · next parsed hparsed =>
          obtain rfl := Option.some.inj (Except.ok.inj h)
          exact ⟨hjson, hparsed⟩
      · cases h
      · cases h

/-- The body that a request carries is read. -/
theorem readBody_of_carries {r : Request} {value : Json} (hcarries : r.Carries value) :
    readBody r r.content = .ok (some value) := by
  obtain ⟨hjson, hparse⟩ := hcarries
  have hcontent : r.content ≠ [] := by
    intro hempty
    rw [hempty] at hparse
    cases hparse
  unfold readBody
  rw [if_neg (by simp [hcontent, hjson]), hparse]

/-- A request is answered by an error before its path is looked at, or it is let pass and dispatched with its whole
body.  All servers with one upload limit decide alike, at any time and in any state.  The error is neither one of the
gate nor one of the settings. -/
theorem respond_dispatch_cases (limit : Int) (r : Request) :
    (∃ response, (400 ≤ response.status ∧ response.status ≠ 401 ∧ response ≠ Response.misconfigured) ∧
        ∀ config now s, config.settings.maxUploadSize = limit → respond config now s r = (response, s))
      ∨ (∃ stream, Upload.screen limit "http" r.headers r.messages = .ok (.admitted stream))
        ∧ ∀ config now s, config.settings.maxUploadSize = limit →
          respond config now s r = dispatch config now r r.content s := by
  cases hscreen : Upload.screen limit "http" r.headers r.messages with
  | error cause =>
      refine Or.inl ⟨Response.internal, ⟨by simp, by simp, internal_ne_misconfigured⟩, ?_⟩
      rintro config now s rfl
      rw [respond, hscreen]
  | ok verdict =>
      cases verdict with
      | tooLarge untaken =>
          refine Or.inl ⟨Response.bodyTooLarge, ⟨by simp, by simp, ne_misconfigured_of_status (by simp)⟩, ?_⟩
          rintro config now s rfl
          rw [respond, hscreen]
      | abandoned untaken =>
          refine Or.inl ⟨Response.internal, ⟨by simp, by simp, internal_ne_misconfigured⟩, ?_⟩
          rintro config now s rfl
          rw [respond, hscreen]
      | admitted stream =>
          refine Or.inr ⟨⟨stream, rfl⟩, ?_⟩
          rintro config now s rfl
          rw [respond, hscreen, ← Upload.body_of_screen hscreen]

/-- A request that reaches no endpoint is answered alike in all states, and it changes none. -/
theorem dispatch_of_not_reaches {r : Request} (hnone : ∀ e, ¬ r.Reaches e) :
    ∃ response : Response, response.status ≠ 500 ∧ ∀ config now content s,
      dispatch config now r content s = (response, s) := by
  cases hrouting : Routing.of r.method r.path with
  | found e => exact absurd (Routing.of_eq_found_iff.1 hrouting) (hnone e)
  | wrongMethod =>
      exact ⟨Response.detail 405 "Method Not Allowed", by simp, fun _ _ _ _ => by rw [dispatch, hrouting]⟩
  | otherSlash => exact ⟨Response.text 307 "", by decide, fun _ _ _ _ => by rw [dispatch, hrouting]⟩
  | missing => exact ⟨Response.detail 404 "Not Found", by simp, fun _ _ _ _ => by rw [dispatch, hrouting]⟩

/-- A request that reaches an endpoint enters there. -/
theorem dispatch_of_reaches {r : Request} {e : Endpoint} (he : r.Reaches e) (config : ServerConfig) (now : Moment)
    (content : Bytes) (s : ServerState) : dispatch config now r content s = enter config now r content s e := by
  rw [dispatch, Routing.of_eq_found_iff.2 he]

/-- At an endpoint a request is answered by an error for its body, or else, with the value that its body carries, it
is refused for its token or served.  All servers decide alike, at any time and in any state. -/
theorem enter_cases (r : Request) (e : Endpoint) :
    (∃ response, (400 ≤ response.status ∧ response.status ≠ 401 ∧ response ≠ Response.misconfigured) ∧
        ∀ config now s, enter config now r r.content s e = (response, s))
      ∨ ∃ body, (∀ value, body = some value → r.Carries value) ∧ ∀ config now s,
        (∀ response, e.guarded = true → refusal config.settings now r = some response →
          enter config now r r.content s e = (response, s))
        ∧ ((e.guarded = true → refusal config.settings now r = none) →
          enter config now r r.content s e = serve config now r body s e) := by
  cases hread : if e.readsBody then readBody r r.content else .ok none with
  | error response =>
      refine Or.inl ⟨response, ?_, ?_⟩
      · split at hread
        · have hstatus := status_readBody hread
          exact ⟨by omega, by omega, ne_misconfigured_of_status (by omega)⟩
        · cases hread
      · intro config now s
        simp only [enter, hread]
  | ok body =>
      refine Or.inr ⟨body, ?_, fun config now s => ⟨?_, ?_⟩⟩
      · rintro value rfl
        split at hread
        · exact carries_of_readBody hread
        · cases hread
      · intro response hguarded hrefused
        simp only [enter, hread, if_pos hguarded, hrefused]
      · intro hpassed
        have hnone : (if e.guarded then refusal config.settings now r else none) = none := by
          split
          · next hguarded => exact hpassed hguarded
          · rfl
        simp only [enter, hread, hnone]

theorem enter_effect (config : ServerConfig) (now : Moment) {r : Request} (s : ServerState) {e : Endpoint}
    (he : r.Reaches e) :
    Effect now.day r s.table (enter config now r r.content s e).1
      (enter config now r r.content s e).2.table := by
  rcases enter_cases r e with ⟨response, hstatus, henter⟩ | ⟨body, hbody, henter⟩
  · rw [henter]
    exact Effect.refused hstatus.1
  · obtain ⟨hrefused, hserved⟩ := henter config now s
    by_cases hpassed : e.guarded = true → refusal config.settings now r = none
    · rw [hserved hpassed]
      exact serve_effect config now s he hbody
    · obtain ⟨hguarded, hnot⟩ := Classical.not_imp.1 hpassed
      obtain ⟨response, hresponse⟩ := Option.ne_none_iff_exists'.1 hnot
      rw [hrefused response hguarded hresponse]
      exact Effect.refused (status_refusal hresponse)

/-- Every request acts on the table in one of the ways of `Effect`. -/
theorem respond_effect (config : ServerConfig) (now : Moment) (s : ServerState) (r : Request) :
    Effect now.day r s.table (respond config now s r).1 (respond config now s r).2.table := by
  rcases respond_dispatch_cases config.settings.maxUploadSize r with ⟨response, hstatus, hresponse⟩ | ⟨-, hdispatch⟩
  · rw [hresponse config now s rfl]
    exact Effect.refused hstatus.1
  rw [hdispatch config now s rfl]
  by_cases hreaches : ∃ e, r.Reaches e
  · obtain ⟨e, he⟩ := hreaches
    rw [dispatch_of_reaches he]
    exact enter_effect config now s he
  · obtain ⟨response, -, hresponse⟩ := dispatch_of_not_reaches (not_exists.1 hreaches)
    rw [hresponse]
    exact Effect.readOnly fun e he => absurd ⟨e, he⟩ hreaches

end Server
end Agenda
