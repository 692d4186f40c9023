import Agenda.Json.Reader
import Agenda.Server.Form
import Agenda.Server.Route
import Agenda.Settings
import Agenda.Throttle
import Agenda.Token
/-!
# Responses of the server

The response to a request and the state after it.

* `ServerConfig` — what a server is started with.
* `ServerState` — the table of entries and the counted sign-in attempts.
* `Server.respond` — the response to one request at a time of the clock.
* `Server.run` — the responses to a sequence of requests.

The checks come in a fixed order: the size of the body, the route, the syntax of a JSON body, the token,
the form of the body, and then what the endpoint itself looks at. A check that fails answers the
request, and nothing is written.
-/

namespace Agenda

/-- What a server is started with: its settings, how often a client may try to sign in, and the ids that its
database draws for a new row at a time of the clock, once the largest id is taken. -/
structure ServerConfig where
  settings : Settings
  signInRate : AttemptRate := ⟨5, 60, "5 per 1 minute"⟩
  drawnIds : Moment → List Int := fun _ => []

/-- What the server remembers between requests. -/
structure ServerState where
  table : Table
  attempts : Throttle
deriving DecidableEq

namespace Server

def initial : ServerState := ⟨Table.empty, Throttle.empty⟩

/-! ## Bodies -/

/-- How far a body is read. The depth is what a limit of 1000 nested calls leaves where bodies are read. -/
def bodyLimits : JsonLimits := { depth := 968 }

/-- The value of a request's body: none when it is empty or not declared as JSON. A body that cannot be
read is answered at once. -/
def readBody (r : Request) (content : Bytes) : Except Response (Option Json) :=
  if content = [] ∨ ¬ r.isJson then .ok none
  else
    match Json.parseBytes bodyLimits content with
    | .ok value => .ok (some value)
    | .error .malformed => .error Response.badBody
    | .error _ => .error (Response.detail 400 "There was an error parsing the body")

/-! ## Answers -/

def rowJson (row : Row) : Json :=
  Json.ofFields
    [("id", .ofText (String.ofList (Text.signedDecimal row.id))), ("date", .ofText row.entry.date),
      ("title", .ofText row.entry.title), ("comment", .ofText row.entry.comment),
      ("repeat", .ofText row.entry.rule)]

def storeFailure (e : StoreError) : Response :=
  Response.error e.status e.message

def noNextDate (e : NextDateError) : String :=
  "failed to compute the new date: " ++ e.message

/-! ## Endpoints -/

/-- The answer to a request whose token is not accepted; nothing when it may go on. -/
def refusal (settings : Settings) (now : Moment) (r : Request) : Option Response :=
  if ¬ settings.authEnabled then none
  else
    match r.token? with
    | none => some (Response.error 401 "authentication required")
    | some token =>
        if token = "" then some (Response.error 401 "authentication required")
        else if settings.secretKey = "" then some Response.misconfigured
        else
          match Token.check token settings.passwordHash settings.secretKey now with
          | .ok _ => none
          | .error .unusableKey | .error .outsideCalendar => some Response.internal
          | .error _ => some (Response.error 401 "invalid JWT token")

/-- The next date of a rule, without touching the table. -/
def previewDate (now : Moment) (r : Request) : Response :=
  let reference :=
    if r.parameter "now" = "" then .ok now.day else Compact.parse (r.parameter "now")
  match reference with
  | .error cause => Response.text 400 ("invalid 'now' parameter: " ++ cause.message)
  | .ok today =>
      match nextDate today (r.parameter "date") (r.parameter "repeat") with
      | .error .noWeekday => Response.internal
      | .error cause => Response.text 400 (noNextDate cause)
      | .ok result => Response.text 200 result

def listTasks (settings : Settings) (r : Request) (t : Table) : Response :=
  match t.list settings.tasksLimit (Text.trimmed (r.parameter "search")) with
  | .error cause => storeFailure cause
  | .ok rows => Response.json 200 (Json.ofFields [("tasks", .array (rows.map rowJson))])

def readTask (r : Request) (t : Table) : Response :=
  match t.lookup (.text (r.parameter "id")) with
  | .error cause => storeFailure cause
  | .ok row => Response.json 200 (rowJson row)

/-- The answer to an entry that is refused. A refusal that would repeat a string that is no text cannot
be told. -/
def refusedEntry (form : EntryForm) (cause : EntryError) : Response :=
  match cause, form.rule with
  | .repetition .noWeekday, _ => Response.internal
  | .repetition (.rule _), .unpaired _ => Response.internal
  | _, _ => Response.error 400 cause.message

def addTask (drawn : List Int) (now : Moment) (body : Option Json) (t : Table) : Response × Table :=
  match body.bind EntryForm.ofJson? with
  | none => (Response.badBody, t)
  | some form =>
      match form.shown.normalize now.day with
      | .error cause => (refusedEntry form cause, t)
      | .ok accepted =>
          match t.insert drawn (form.inputAt accepted.date) with
          | .error cause => (storeFailure cause, t)
          | .ok (id, t') =>
              (Response.json 200
                (Json.ofFields [("id", .ofText (String.ofList (Text.signedDecimal id)))]), t')

def replaceTask (now : Moment) (body : Option Json) (t : Table) : Response × Table :=
  match body.bind AddressedForm.ofJson? with
  | none => (Response.badBody, t)
  | some form =>
      match form.entry.shown.normalize now.day with
      | .error cause => (refusedEntry form.entry cause, t)
      | .ok accepted =>
          match t.update form.idInput (form.entry.inputAt accepted.date) with
          | .error cause => (storeFailure cause, t)
          | .ok (_, t') => (Response.done, t')

def deleteTask (r : Request) (t : Table) : Response × Table :=
  match t.delete (.text (r.parameter "id")) with
  | .error cause => (storeFailure cause, t)
  | .ok (_, t') => (Response.done, t')

/-- Complete a task: a row without a rule is removed, any other moves to its next date. -/
def completeTask (now : Moment) (r : Request) (t : Table) : Response × Table :=
  let id := IdInput.text (r.parameter "id")
  match t.lookup id with
  | .error cause => (storeFailure cause, t)
  | .ok row =>
      if row.entry.rule = "" then
        match t.delete id with
        | .error cause => (storeFailure cause, t)
        | .ok (_, t') => (Response.done, t')
      else
        match nextDate now.day row.entry.date row.entry.rule with
        | .error .noWeekday => (Response.internal, t)
        | .error cause => (Response.error 400 (noNextDate cause), t)
        | .ok date =>
            match t.reschedule id (.text date) with
            | .error cause => (storeFailure cause, t)
            | .ok (_, t') => (Response.done, t')

def exchangePassword (settings : Settings) (now : Moment) (password : JsonString) :
    Response :=
  if settings.password = "" then Response.misconfigured
  else if settings.secretKey = "" then Response.misconfigured
  else if password ≠ .text settings.password then Response.error 401 "incorrect password"
  else
    match Token.issueNow settings.passwordHash settings.secretKey settings.tokenLifetimeHours now with
    | .error _ => Response.internal
    | .ok token => Response.json 200 (Json.ofFields [("token", .ofText token)])

/-- Sign in. The attempt is counted once the form of the body is right. -/
def signIn (config : ServerConfig) (now : Moment) (r : Request) (body : Option Json)
    (attempts : Throttle) : Response × Throttle :=
  match body.bind passwordOf? with
  | none => (Response.badBody, attempts)
  | some password =>
      let (allowed, attempts') := attempts.attempt config.signInRate r.source now.timestamp
      if allowed then (exchangePassword config.settings now password, attempts')
      else (Response.tooManyAttempts config.signInRate, attempts')

def health : Response :=
  Response.json 200 (Json.ofFields [("status", .ofText "ok"), ("service", .ofText "go-todo")])

/-- A page that describes the interface. Its content is not kept here. -/
def describe : Response := Response.text 200 ""

/-- The answer of an endpoint, for a body that has been read. -/
def serve (config : ServerConfig) (now : Moment) (r : Request) (body : Option Json)
    (s : ServerState) : Endpoint → Response × ServerState
  | .description _ => (describe, s)
  | .health => (health, s)
  | .previewDate => (previewDate now r, s)
  | .signIn =>
      let (response, attempts) := signIn config now r body s.attempts
      (response, { s with attempts := attempts })
  | .listTasks => (listTasks config.settings r s.table, s)
  | .readTask => (readTask r s.table, s)
  | .addTask =>
      let (response, table) := addTask (config.drawnIds now) now body s.table
      (response, { s with table := table })
  | .replaceTask =>
      let (response, table) := replaceTask now body s.table
      (response, { s with table := table })
  | .deleteTask =>
      let (response, table) := deleteTask r s.table
      (response, { s with table := table })
  | .completeTask =>
      let (response, table) := completeTask now r s.table
      (response, { s with table := table })

/-- The answer of an endpoint behind its checks: the syntax of the body, then the token. -/
def enter (config : ServerConfig) (now : Moment) (r : Request) (content : Bytes) (s : ServerState)
    (endpoint : Endpoint) : Response × ServerState :=
  -- A body that cannot be read is reported to clients without a token, too.
  match if endpoint.readsBody then readBody r content else .ok none with
  | .error response => (response, s)
  | .ok body =>
      match if endpoint.guarded then refusal config.settings now r else none with
      | some response => (response, s)
      | none => serve config now r body s endpoint

/-- The answer to a request whose body is within the limit. -/
def dispatch (config : ServerConfig) (now : Moment) (r : Request) (content : Bytes)
    (s : ServerState) : Response × ServerState :=
  match Routing.of r.method r.path with
  | .found endpoint => enter config now r content s endpoint
  | .wrongMethod => (Response.detail 405 "Method Not Allowed", s)
  | .otherSlash => (Response.text 307 "", s)
  | .missing => (Response.detail 404 "Not Found", s)

/-- The answer to a request, and the state after it. -/
def respond (config : ServerConfig) (now : Moment) (s : ServerState) (r : Request) :
    Response × ServerState :=
  match Upload.screen config.settings.maxUploadSize "http" r.headers r.messages with
  | .ok (.admitted stream) => dispatch config now r stream.body s
  | .ok (.tooLarge _) => (Response.bodyTooLarge, s)
  | .ok (.abandoned _) | .error _ => (Response.internal, s)

/-- The answers to requests at given times, one after the other, and the state after them. -/
def run (config : ServerConfig) (s : ServerState) :
    List (Moment × Request) → List Response × ServerState
  | [] => ([], s)
  | (now, r) :: rest =>
      let (response, s') := respond config now s r
      let (responses, s'') := run config s' rest
      (response :: responses, s'')

end Server
end Agenda
