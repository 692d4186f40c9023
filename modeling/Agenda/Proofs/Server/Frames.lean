import Agenda.Proofs.Server.Effects
/-!
# What the requests of a run leave alone

A run of requests, taken apart into its steps.  Each step changes the table at most at the one id that its
request is about, and only when its answer says so.

* `Server.Step`, `Server.steps` — the requests of a run with the states around them; `Server.run_eq_steps`
  — they are those of `Server.run`.
* `Server.forall_mem_steps` — what each step of a run keeps holds in all of it.
* `Server.Step.Framed` — what a step leaves alone and what it changes.
* `Server.steps_framed` — every step of every run is framed.
-/

namespace Agenda
namespace Server

/-! ## Steps -/

/-- A request of a run, with the state that it finds, its answer, and the state that it leaves. -/
structure Step where
  before : ServerState
  now : Moment
  request : Request
  response : Response
  after : ServerState

/-- The step that a request takes in a state. -/
def Step.take (config : ServerConfig) (s : ServerState) (now : Moment) (r : Request) : Step :=
  ⟨s, now, r, (respond config now s r).1, (respond config now s r).2⟩

/-- The steps of a run. -/
def steps (config : ServerConfig) (s : ServerState) : List (Moment × Request) → List Step
  | [] => []
  | (now, r) :: rest =>
      Step.take config s now r :: steps config (respond config now s r).2 rest

/-- A run gives the answers of its steps and ends in the state that the last one leaves. -/
theorem run_eq_steps (config : ServerConfig) (s : ServerState) (requests : List (Moment × Request)) :
    run config s requests
      = ((steps config s requests).map Step.response,
          ((steps config s requests).getLast?.map Step.after).getD s) := by
  induction requests generalizing s with
  | nil => rfl
  | cons first rest ih =>
      obtain ⟨now, r⟩ := first
      simp only [run, steps, ih, List.map_cons, List.getLast?_cons]
      cases (steps config (respond config now s r).2 rest).getLast? <;> rfl

theorem map_now_steps (config : ServerConfig) (s : ServerState) (requests : List (Moment × Request)) :
    (steps config s requests).map Step.now = requests.map Prod.fst := by
  induction requests generalizing s with
  | nil => rfl
  | cons first rest ih => exact congrArg (first.1 :: ·) (ih _)

/-- The requests at the end of a run start in the state in which those before them end. -/
theorem steps_append (config : ServerConfig) (s : ServerState) (early late : List (Moment × Request)) :
    steps config s (early ++ late) = steps config s early ++ steps config (run config s early).2 late := by
  induction early generalizing s with
  | nil => rfl
  | cons first rest ih => exact congrArg (Step.take config s first.1 first.2 :: ·) (ih _)

/-- A step of a run is taken in the state in which the requests before it end. -/
theorem exists_append_of_mem_steps {config : ServerConfig} {s : ServerState}
    {requests : List (Moment × Request)} {step : Step} (hstep : step ∈ steps config s requests) :
    ∃ early now r late, requests = early ++ (now, r) :: late
      ∧ step = Step.take config (run config s early).2 now r := by
  induction requests generalizing s with
  | nil => cases hstep
  | cons first rest ih =>
      rcases List.mem_cons.1 hstep with rfl | hstep
      · exact ⟨[], first.1, first.2, rest, rfl, rfl⟩
      · obtain ⟨early, now, r, late, rfl, rfl⟩ := ih hstep
        exact ⟨first :: early, now, r, late, rfl, rfl⟩

/-- If a property of states is kept by every request at an admissible time, then every step of a run at such
times starts in a state that has it. -/
theorem forall_mem_steps {config : ServerConfig} (P : ServerState → Prop) (times : Moment → Prop)
    (hstep : ∀ s now r, times now → P s → P (respond config now s r).2) {s : ServerState}
    {requests : List (Moment × Request)} (hs : P s) (htimes : ∀ request ∈ requests, times request.1) :
    ∀ step ∈ steps config s requests,
      ∃ s' now r, P s' ∧ times now ∧ step = Step.take config s' now r := by
  induction requests generalizing s with
  | nil => simp [steps]
  | cons first rest ih =>
      obtain ⟨now, r⟩ := first
      have hnow : times now := htimes (now, r) (by simp)
      intro step hmem
      rcases List.mem_cons.1 hmem with rfl | hrest
      · exact ⟨s, now, r, hs, hnow, rfl⟩
      · exact ih (hstep s now r hnow hs) (fun request hin => htimes request (by simp [hin])) step hrest

theorem Step.take_effect (config : ServerConfig) (s : ServerState) (now : Moment) (r : Request) :
    Effect (take config s now r).now.day (take config s now r).request (take config s now r).before.table
      (take config s now r).response (take config s now r).after.table :=
  respond_effect config now s r

/-! ## What an effect leaves alone -/

theorem Write.status_eq {today : Date} {r : Request} {t t' : Table} {e : Endpoint} {response : Response}
    (h : Write today r t e response t') : response.status = 200 := by
  cases h <;> rfl

theorem Write.writes {today : Date} {r : Request} {t t' : Table} {e : Endpoint} {response : Response}
    (h : Write today r t e response t') : e.writes = true := by
  cases h <;> rfl

namespace Effect

variable {today : Date} {r : Request} {t t' : Table} {response : Response}
  (h : Effect today r t response t')
include h

theorem eq_of_refused (hstatus : 400 ≤ response.status) : t' = t := by
  cases h with
  | refused => rfl
  | readOnly => rfl
  | written _ hwrite =>
      rw [hwrite.status_eq] at hstatus
      omega

/-- A request that reaches no writing endpoint leaves the table alone. -/
theorem eq_of_readOnly (hreads : ∀ e, r.Reaches e → e.writes = false) : t' = t := by
  cases h with
  | refused => rfl
  | readOnly => rfl
  | written hreaches hwrite =>
      have hwrites := hwrite.writes
      rw [hreads _ hreaches] at hwrites
      cases hwrites

/-- An answered request at an endpoint that writes has written there. -/
theorem write_of_reaches {e : Endpoint} (hreaches : r.Reaches e) (hwrites : e.writes = true)
    (hstatus : response.status = 200) : Write today r t e response t' := by
  cases h with
  | refused hrefused => omega
  | readOnly hreads =>
      rw [hreads e hreaches] at hwrites
      cases hwrites
  | written hreaches' hwrite =>
      obtain rfl := Endpoint.eq_of_reaches hreaches' hreaches
      exact hwrite

/-- What an answered request to add an entry has done. -/
theorem added_of_reaches (hreaches : r.Reaches .addTask) (hstatus : response.status = 200) :
    ∃ entry accepted id, r.Submits entry ∧ entry.normalize today = .ok accepted ∧ response = newId id
      ∧ t.entryAt? id = none ∧ t.ChangesOnly t' id (some accepted) := by
  cases h.write_of_reaches hreaches rfl hstatus with
  | added hsubmits haccepted hnew hchange => exact ⟨_, _, _, hsubmits, haccepted, rfl, hnew, hchange⟩

/-- What an answered request to replace an entry has done. -/
theorem replaced_of_reaches (hreaches : r.Reaches .replaceTask) (hstatus : response.status = 200) :
    ∃ s entry accepted n old, r.SubmitsFor s entry ∧ entry.normalize today = .ok accepted
      ∧ Text.readInteger s.toList = some n ∧ t.entryAt? n = some old
      ∧ t.ChangesOnly t' n (some accepted) := by
  cases h.write_of_reaches hreaches rfl hstatus with
  | replaced hsubmits haccepted hnamed hold hchange =>
      exact ⟨_, _, _, _, _, hsubmits, haccepted, hnamed, hold, hchange⟩

/-- What an answered request to delete a row has done. -/
theorem deleted_of_reaches (hreaches : r.Reaches .deleteTask) (hstatus : response.status = 200) :
    ∃ n old, Text.readInteger (r.parameter "id").toList = some n ∧ t.entryAt? n = some old
      ∧ t.ChangesOnly t' n none := by
  cases h.write_of_reaches hreaches rfl hstatus with
  | deleted hnamed hold hchange => exact ⟨_, _, hnamed, hold, hchange⟩

/-- What an answered request to complete a task has done. -/
theorem completed_of_reaches (hreaches : r.Reaches .completeTask) (hstatus : response.status = 200) :
    ∃ n old, Text.readInteger (r.parameter "id").toList = some n ∧ t.entryAt? n = some old
      ∧ ((old.rule = "" ∧ t.ChangesOnly t' n none)
        ∨ (old.rule ≠ "" ∧ ∃ date, nextDate today old.date old.rule = .ok date
          ∧ t.ChangesOnly t' n (some { old with date := date }))) := by
  cases h.write_of_reaches hreaches rfl hstatus with
  | finished hnamed hold hrule hchange => exact ⟨_, _, hnamed, hold, Or.inl ⟨hrule, hchange⟩⟩
  | moved hnamed hold hrule hdate hchange =>
      exact ⟨_, _, hnamed, hold, Or.inr ⟨hrule, _, hdate, hchange⟩⟩

end Effect

/-- No endpoint that is reached with `GET` writes. -/
theorem writes_of_get {r : Request} (hget : r.method = "GET") {e : Endpoint} (he : r.Reaches e) :
    e.writes = false := by
  have hmethod := he.1
  rw [hget] at hmethod
  cases e with
  | addTask => simp [Endpoint.methods] at hmethod
  | replaceTask => simp [Endpoint.methods] at hmethod
  | deleteTask => simp [Endpoint.methods] at hmethod
  | completeTask => simp [Endpoint.methods] at hmethod
  | _ => rfl

/-! ## Framed steps -/

/-- What a step leaves alone and what it changes.

A request that only reads, a sign-in and a refused request leave the table as it was.  Adding an entry puts
its accepted form under a new id, which is answered.  Replacing puts it under the id that is named, deleting
removes the row of this id, and completing removes it or changes its date.  All other rows stay as they
were. -/
structure Step.Framed (step : Step) : Prop where
  reading : step.request.method = "GET" → step.after.table = step.before.table
  signingIn : step.request.Reaches .signIn → step.after.table = step.before.table
  refused : 400 ≤ step.response.status → step.after.table = step.before.table
  adding : step.request.Reaches .addTask → step.response.status = 200 →
    ∃ entry accepted id, step.request.Submits entry ∧ entry.normalize step.now.day = .ok accepted
      ∧ step.response = newId id ∧ step.before.table.entryAt? id = none
      ∧ step.before.table.ChangesOnly step.after.table id (some accepted)
  replacing : step.request.Reaches .replaceTask → step.response.status = 200 →
    ∃ s entry accepted n old, step.request.SubmitsFor s entry
      ∧ entry.normalize step.now.day = .ok accepted ∧ Text.readInteger s.toList = some n
      ∧ step.before.table.entryAt? n = some old
      ∧ step.before.table.ChangesOnly step.after.table n (some accepted)
  deleting : step.request.Reaches .deleteTask → step.response.status = 200 →
    ∃ n old, Text.readInteger (step.request.parameter "id").toList = some n
      ∧ step.before.table.entryAt? n = some old
      ∧ step.before.table.ChangesOnly step.after.table n none
  completing : step.request.Reaches .completeTask → step.response.status = 200 →
    ∃ n old, Text.readInteger (step.request.parameter "id").toList = some n
      ∧ step.before.table.entryAt? n = some old
      ∧ ((old.rule = "" ∧ step.before.table.ChangesOnly step.after.table n none)
        ∨ (old.rule ≠ "" ∧ ∃ date, nextDate step.now.day old.date old.rule = .ok date
          ∧ step.before.table.ChangesOnly step.after.table n (some { old with date := date })))

theorem framed_of_effect {step : Step}
    (h : Effect step.now.day step.request step.before.table step.response step.after.table) :
    step.Framed where
  reading hget := h.eq_of_readOnly fun _ he => writes_of_get hget he
  signingIn hreaches := h.eq_of_readOnly fun e he => by
    rw [Endpoint.eq_of_reaches he hreaches]
    rfl
  refused hstatus := h.eq_of_refused hstatus
  adding hreaches hstatus := h.added_of_reaches hreaches hstatus
  replacing hreaches hstatus := h.replaced_of_reaches hreaches hstatus
  deleting hreaches hstatus := h.deleted_of_reaches hreaches hstatus
  completing hreaches hstatus := h.completed_of_reaches hreaches hstatus

/-- Every step of every run, whatever the table holds at first, is framed. -/
theorem steps_framed (config : ServerConfig) (s : ServerState) (requests : List (Moment × Request)) :
    ∀ step ∈ steps config s requests, step.Framed := by
  intro step hstep
  obtain ⟨s', now, r, -, -, rfl⟩ := forall_mem_steps (fun _ => True) (fun _ => True)
    (fun _ _ _ _ _ => trivial) trivial (fun _ _ => trivial) step hstep
  exact framed_of_effect (Step.take_effect config s' now r)

/-- A row is completed beside one that no request could have written. -/
theorem steps_framed_completion :
    let table : Table :=
      ⟨[⟨-3, ⟨"20240131", "water", "", "d 2"⟩⟩, ⟨7, ⟨"soon", "", "", "?"⟩⟩], by decide, by decide⟩
    let done : Request := { method := "POST", path := "/api/task/done", query := [("id", " -3")] }
    let step := Step.take { settings := {} } ⟨table, Throttle.empty⟩
      (Moment.midnight ⟨2024, 2, 28, by decide⟩) done
    step.response.status = 200
      ∧ table.ChangesOnly step.after.table (-3) (some ⟨"20240301", "water", "", "d 2"⟩) := by
  intro table done step
  have hstatus : step.response.status = 200 := by decide +kernel
  have hstep : step ∈ steps { settings := {} } ⟨table, Throttle.empty⟩
      [(Moment.midnight ⟨2024, 2, 28, by decide⟩, done)] := List.mem_singleton.2 rfl
  obtain ⟨n, old, hnamed, hold, hdone⟩ :=
    (steps_framed _ _ _ step hstep).completing ⟨by decide, by decide⟩ hstatus
  have hnumber : Text.readInteger (done.parameter "id").toList = some (-3) := by decide +kernel
  have hrow : table.entryAt? (-3) = some ⟨"20240131", "water", "", "d 2"⟩ := by decide
  obtain rfl : n = -3 := Option.some.inj (hnamed.symm.trans hnumber)
  obtain rfl := Option.some.inj (hold.symm.trans hrow)
  have hnext : nextDate ⟨2024, 2, 28, by decide⟩ "20240131" "d 2" = .ok "20240301" := by
    decide +kernel
  refine ⟨hstatus, ?_⟩
  rcases hdone with ⟨hrule, -⟩ | ⟨-, date, hdate, hchange⟩
  · exact absurd hrule (by decide)
  · obtain rfl := Except.ok.inj (hdate.symm.trans hnext)
    exact hchange

end Server
end Agenda
