import Agenda.Proofs.Server.Attempts
import Agenda.Proofs.Server.Gate
import Agenda.Proofs.Settings
/-!
# Servers with settings of an environment

A server tells that it is not fully configured when there is no password to sign in with, or no key for the tokens.
Settings that are read from an environment have a key whenever they have a password, so that with them only the
sign-in can tell it, and only when there is no password.

* `Server.exchangePassword_eq_misconfigured_iff`, `Server.refusal_eq_misconfigured`,
  `Server.serve_ne_misconfigured` — where it is told.
* `Server.respond_eq_misconfigured` — what it says of the request and of the settings.
* `Settings.ofEnvironment_configures` — which environments have settings, what is told about the others, and what
  the settings rule out in every run.
-/

namespace Agenda
namespace Server

variable {config : ServerConfig} {now : Moment} {s : ServerState} {r : Request}

/-! ## The answer of a server that is not fully configured -/

@[simp] theorem status_json (status : Nat) (value : Json) : (Response.json status value).status = status := rfl

@[simp] theorem status_text (status : Nat) (content : String) : (Response.text status content).status = status := rfl

@[simp] theorem status_done : Response.done.status = 200 := rfl

@[simp] theorem status_tooManyAttempts (rate : AttemptRate) : (Response.tooManyAttempts rate).status = 429 := rfl

theorem storeFailure_ne_misconfigured (e : StoreError) : storeFailure e ≠ Response.misconfigured := by
  intro h
  exact absurd (error_eq_error_iff.1 h).2 (by cases e <;> decide)

theorem refusedEntry_ne_misconfigured (form : EntryForm) (cause : EntryError) :
    refusedEntry form cause ≠ Response.misconfigured := by
  unfold refusedEntry
  split
  · exact internal_ne_misconfigured
  · exact internal_ne_misconfigured
  · exact ne_misconfigured_of_status (by simp)

/-- An exchange of the password tells that something is not configured exactly when there is no password or no key. -/
theorem exchangePassword_eq_misconfigured_iff {settings : Settings} {password : JsonString} :
    exchangePassword settings now password = Response.misconfigured
      ↔ settings.password = "" ∨ settings.secretKey = "" := by
  unfold exchangePassword
  by_cases hpassword : settings.password = ""
  · simp [hpassword]
  by_cases hkey : settings.secretKey = ""
  · simp [hkey]
  refine iff_of_false ?_ (by simp [hpassword, hkey])
  rw [if_neg hpassword, if_neg hkey]
  split
  · exact ne_misconfigured_of_status (by simp)
  · split
    · exact internal_ne_misconfigured
    · exact ne_misconfigured_of_status (by simp)

/-- The gate tells it only when there is a password without a key. -/
theorem refusal_eq_misconfigured {settings : Settings}
    (h : refusal settings now r = some Response.misconfigured) :
    settings.password ≠ "" ∧ settings.secretKey = "" := by
  obtain ⟨hpassword, ⟨message, hdenied⟩ | ⟨hkey, -⟩ | hinternal⟩ := refusal_cases h
  · exact absurd hdenied.symm (ne_misconfigured_of_status (by simp))
  · exact ⟨hpassword, hkey⟩
  · exact absurd hinternal.symm internal_ne_misconfigured

/-! ## Endpoints -/

section

variable (body : Option Json) (t : Table)

theorem addTask_ne_misconfigured (drawn : List Int) : (addTask drawn now body t).1 ≠ Response.misconfigured := by
  unfold addTask
  split
  · exact ne_misconfigured_of_status (by simp)
  · split
    · exact refusedEntry_ne_misconfigured _ _
    · split
      · exact storeFailure_ne_misconfigured _
      · exact ne_misconfigured_of_status (by simp)

theorem replaceTask_ne_misconfigured : (replaceTask now body t).1 ≠ Response.misconfigured := by
  unfold replaceTask
  split
  · exact ne_misconfigured_of_status (by simp)
  · split
    · exact refusedEntry_ne_misconfigured _ _
    · split
      · exact storeFailure_ne_misconfigured _
      · exact ne_misconfigured_of_status (by simp)

theorem deleteTask_ne_misconfigured : (deleteTask r t).1 ≠ Response.misconfigured := by
  unfold deleteTask
  split
  · exact storeFailure_ne_misconfigured _
  · exact ne_misconfigured_of_status (by simp)

theorem completeTask_ne_misconfigured : (completeTask now r t).1 ≠ Response.misconfigured := by
  unfold completeTask
  simp only
  split
  · exact storeFailure_ne_misconfigured _
  · split
    · exact deleteTask_ne_misconfigured t
    · split
      · exact internal_ne_misconfigured
      · exact ne_misconfigured_of_status (by simp)
      · split
        · exact storeFailure_ne_misconfigured _
        · exact ne_misconfigured_of_status (by simp)

theorem listTasks_ne_misconfigured (settings : Settings) : listTasks settings r t ≠ Response.misconfigured := by
  unfold listTasks
  split
  · exact storeFailure_ne_misconfigured _
  · exact ne_misconfigured_of_status (by simp)

theorem readTask_ne_misconfigured : readTask r t ≠ Response.misconfigured := by
  unfold readTask
  split
  · exact storeFailure_ne_misconfigured _
  · exact ne_misconfigured_of_status (by simp)

theorem previewDate_ne_misconfigured : previewDate now r ≠ Response.misconfigured := by
  unfold previewDate
  simp only
  split
  · exact ne_misconfigured_of_status (by simp)
  · split
    · exact internal_ne_misconfigured
    · exact ne_misconfigured_of_status (by simp)
    · exact ne_misconfigured_of_status (by simp)

end

/-- No endpoint but the sign-in tells it. -/
theorem serve_ne_misconfigured {e : Endpoint} (he : e ≠ .signIn) (body : Option Json) :
    (serve config now r body s e).1 ≠ Response.misconfigured := by
  cases e with
  | signIn => exact absurd rfl he
  | description page => exact ne_misconfigured_of_status (by simp [serve, describe])
  | health => exact ne_misconfigured_of_status (by simp [serve, health])
  | previewDate => exact previewDate_ne_misconfigured
  | listTasks => exact listTasks_ne_misconfigured s.table config.settings
  | readTask => exact readTask_ne_misconfigured s.table
  | addTask => exact addTask_ne_misconfigured body s.table (config.drawnIds now)
  | replaceTask => exact replaceTask_ne_misconfigured body s.table
  | deleteTask => exact deleteTask_ne_misconfigured s.table
  | completeTask => exact completeTask_ne_misconfigured s.table

/-- The sign-in tells it only when there is no password or no key. -/
theorem signIn_eq_misconfigured {body : Option Json} {attempts : Throttle}
    (h : (signIn config now r body attempts).1 = Response.misconfigured) :
    config.settings.password = "" ∨ config.settings.secretKey = "" := by
  unfold signIn at h
  split at h
  · exact absurd h (ne_misconfigured_of_status (by simp))
  · simp only at h
    split at h
    · exact exchangePassword_eq_misconfigured_iff.1 h
    · exact absurd h (ne_misconfigured_of_status (by simp))

/-! ## Requests -/

/-- When a request is told that the server is not fully configured, it has reached the sign-in and there is no
password, or there is a password without a key. -/
theorem respond_eq_misconfigured (h : (respond config now s r).1 = Response.misconfigured) :
    (r.Reaches .signIn ∧ config.settings.password = "")
      ∨ (config.settings.password ≠ "" ∧ config.settings.secretKey = "") := by
  rcases respond_dispatch_cases config.settings.maxUploadSize r with
    ⟨response, hstatus, hresponse⟩ | ⟨-, hdispatch⟩
  · rw [hresponse config now s rfl] at h
    exact absurd h hstatus.2.2
  rw [hdispatch config now s rfl] at h
  by_cases hreaches : ∃ e, r.Reaches e
  · obtain ⟨e, he⟩ := hreaches
    rw [dispatch_of_reaches he] at h
    rcases enter_cases r e with ⟨response, hstatus, henter⟩ | ⟨body, -, henter⟩
    · rw [henter config now s] at h
      exact absurd h hstatus.2.2
    obtain ⟨hrefused, hserved⟩ := henter config now s
    by_cases hpassed : e.guarded = true → refusal config.settings now r = none
    · rw [hserved hpassed] at h
      by_cases hsignIn : e = .signIn
      · subst hsignIn
        by_cases hpassword : config.settings.password = ""
        · exact Or.inl ⟨he, hpassword⟩
        · exact Or.inr ⟨hpassword, (signIn_eq_misconfigured h).resolve_left hpassword⟩
      · exact absurd h (serve_ne_misconfigured hsignIn body)
    · obtain ⟨hguarded, hnot⟩ := Classical.not_imp.1 hpassed
      obtain ⟨response, hresponse⟩ := Option.ne_none_iff_exists'.1 hnot
      rw [hrefused response hguarded hresponse] at h
      obtain rfl : response = Response.misconfigured := h
      exact Or.inr (refusal_eq_misconfigured hresponse)
  · obtain ⟨response, hstatus, hresponse⟩ := dispatch_of_not_reaches (not_exists.1 hreaches)
    rw [hresponse] at h
    exact absurd h (ne_misconfigured_of_status hstatus)

/-- What a step tells about the settings: nothing at the tasks, and at the sign-in that there is no password. -/
structure Step.TellsNoPassword (config : ServerConfig) (step : Step) : Prop where
  tasks : step.request.ToTasks → step.response ≠ Response.misconfigured
  signIn : step.response = Response.misconfigured →
    step.request.Reaches .signIn ∧ config.settings.password = ""
  told : config.settings.password = "" → step.request.triedPassword? config.settings.maxUploadSize ≠ none →
    step.response = Response.misconfigured ∨ step.response = Response.tooManyAttempts config.signInRate

/-- With a key whenever there is a password, each step of each run tells only that there is no password. -/
theorem steps_tellNoPassword (hkey : config.settings.password ≠ "" → config.settings.secretKey ≠ "")
    (s : ServerState) (requests : List (Moment × Request)) :
    ∀ step ∈ steps config s requests, step.TellsNoPassword config := by
  intro step hstep
  obtain ⟨early, now, r, late, -, rfl⟩ := exists_append_of_mem_steps hstep
  have hsignIn : (Step.take config (run config s early).2 now r).response = Response.misconfigured →
      r.Reaches .signIn ∧ config.settings.password = "" := by
    intro hresponse
    rcases respond_eq_misconfigured hresponse with hreaches | ⟨hpassword, hempty⟩
    · exact hreaches
    · exact absurd hempty (hkey hpassword)
  refine ⟨?_, hsignIn, ?_⟩
  · intro htasks hresponse
    -- The endpoints at the tasks are guarded, and the sign-in is not.
    exact absurd (Endpoint.guarded_of_toTasks htasks (hsignIn hresponse).1) (by decide)
  · intro hpassword htried
    obtain ⟨password, htried⟩ := Option.ne_none_iff_exists'.1 htried
    have hresponse : (respond config now (run config s early).2 r).1 = _ :=
      congrArg Prod.fst (respond_of_tried htried)
    rw [exchangePassword_eq_misconfigured_iff.2 (Or.inl hpassword)] at hresponse
    exact (ite_eq_or_eq _ _ _).imp hresponse.trans hresponse.trans

end Server

namespace Settings

/-- An environment has settings exactly when each of its four integers is given, and there is a key if there is a
password.  Of another environment the first integer that is not given is told, and the missing key only when all of
them are.  The settings hold the integers that are given, each read back from its decimal text, and the texts as they
are.  The guard, the password and its digest stand or fall together, and in every run of a server with these settings
only the sign-in tells that something is not configured, and only when there is no password. -/
theorem ofEnvironment_configures (env : Environment) :
    ((∃ settings, ofEnvironment env = .ok settings)
        ↔ (∀ v ∈ integerVariables, ∃ n, env.Gives v n)
          ∧ (env.Lacks "TODO_PASSWORD" ∨ ¬ env.Lacks "TODO_SECRETKEY"))
    ∧ (∀ cause, ofEnvironment env = .error cause →
        (∃ v value, env.FirstOffending v ∧ env v.name = some value
          ∧ cause.message
            = "invalid integer value in " ++ v.name ++ ": " ++ String.ofList (Text.quote value.toList))
        ∨ ((∀ v ∈ integerVariables, ∃ n, env.Gives v n)
          ∧ cause.message = "password is set via TODO_PASSWORD, but secret key TODO_SECRETKEY is missing"))
    ∧ ∀ settings, ofEnvironment env = .ok settings →
        (∀ v ∈ integerVariables, (∀ n, env.Gives v n ↔ v.setting settings = n)
          ∧ ∀ n : Int, (Text.decimal n.natAbs).length ≤ Text.maxIntegerDigits →
            env v.name = some (String.ofList (Text.signedDecimal n)) → v.setting settings = n)
        ∧ (∀ v ∈ textVariables, v.setting settings = (env v.name).getD v.default)
        ∧ (settings.authEnabled = true ↔ settings.password ≠ "")
        ∧ (settings.password ≠ "" ↔ settings.passwordHash ≠ "")
        ∧ (settings.password ≠ "" → settings.secretKey ≠ "")
        ∧ ∀ config : ServerConfig, config.settings = settings → ∀ s requests,
          ∀ step ∈ Server.steps config s requests, step.TellsNoPassword config := by
  refine ⟨exists_ofEnvironment_iff, ?_, ?_⟩
  · intro cause h
    cases Environment.fault_of_ofEnvironment h with
    | @integer v value hfirst hvalue => exact Or.inl ⟨v, value, hfirst, hvalue, rfl⟩
    | missingKey hintegers => exact Or.inr ⟨hintegers, rfl⟩
  · intro settings h
    obtain ⟨hintegers, htexts, hkey⟩ := ofEnvironment_eq_ok_iff.1 h
    refine ⟨fun v hv => ⟨fun n => ⟨(hintegers v hv).unique, ?_⟩, ?_⟩, htexts, by simp [authEnabled],
      not_congr hashPassword_eq_empty_iff.symm, hkey, ?_⟩
    · rintro rfl
      exact hintegers v hv
    · intro n hdigits hvalue
      exact (hintegers v hv).unique (Environment.gives_of_signedDecimal hdigits hvalue)
    · rintro config rfl s requests
      exact Server.steps_tellNoPassword hkey s requests

/-- An environment with a password and a key, one with two texts that denote no integer, and one without a key. -/
theorem ofEnvironment_configures_gate :
    let env : Environment := fun name =>
      if name = "TODO_PORT" then some " +80_80\n" else if name = "TODO_TASKS_LIMIT" then some ""
      else if name = "TODO_PASSWORD" then some "gate" else if name = "TODO_SECRETKEY" then some "key" else none
    let faulty : Environment := fun name =>
      if name = "TODO_TASKS_LIMIT" then some "1 0" else if name = "TODO_TOKEN_TTL_HOURS" then some "+" else none
    let keyless : Environment := fun name => if name = "TODO_PASSWORD" then some "gate" else none
    (∃ settings, ofEnvironment env = .ok settings ∧ settings.port = 8080 ∧ settings.tasksLimit = 50
        ∧ settings.passwordHash ≠ ""
        ∧ ∀ requests, ∀ step ∈ Server.steps { settings := settings } Server.initial requests,
          step.response ≠ Response.misconfigured)
      ∧ ofEnvironment faulty = .error (.invalidInteger "TODO_TASKS_LIMIT" "1 0")
      ∧ (∃ v value, faulty.FirstOffending v ∧ faulty v.name = some value)
      ∧ ¬ ∃ settings, ofEnvironment keyless = .ok settings := by
  intro env faulty keyless
  have hport : env.Gives .port 8080 := .written rfl (Text.readInteger_eq_some_iff.1 (by decide))
  have htasks : env.Gives .tasksLimit 50 := .default (by decide)
  have hfault : ofEnvironment faulty = .error (.invalidInteger "TODO_TASKS_LIMIT" "1 0") := by decide
  refine ⟨?_, hfault, ?_, ?_⟩
  · have hgiven : ∀ v ∈ integerVariables, ∃ n, env.Gives v n := by
      simp only [integerVariables, List.forall_mem_cons]
      exact ⟨⟨_, hport⟩, ⟨_, htasks⟩, ⟨_, .default (by decide)⟩, ⟨_, .default (by decide)⟩, by simp⟩
    obtain ⟨settings, hsettings⟩ := (ofEnvironment_configures env).1.2 ⟨hgiven, Or.inr (by decide)⟩
    obtain ⟨hintegers, htexts, -, hhash, -, hsteps⟩ := (ofEnvironment_configures env).2.2 settings hsettings
    have hpassword : settings.password = "gate" :=
      htexts ⟨"TODO_PASSWORD", "", Settings.password⟩ (by simp [textVariables])
    refine ⟨settings, hsettings, ?_, ?_, hhash.1 (by simp [hpassword]), ?_⟩
    · exact ((hintegers .port (by simp [integerVariables])).1 8080).1 hport
    · exact ((hintegers .tasksLimit (by simp [integerVariables])).1 50).1 htasks
    · intro requests step hstep hresponse
      have hempty := ((hsteps { settings := settings } rfl Server.initial requests step hstep).signIn hresponse).2
      exact absurd (hpassword.symm.trans hempty) (by decide)
  · rcases (ofEnvironment_configures faulty).2.1 _ hfault with ⟨v, value, hfirst, hvalue, -⟩ | ⟨-, hmessage⟩
    · exact ⟨v, value, hfirst, hvalue⟩
    · exact absurd hmessage (by decide)
  · intro hsome
    rcases ((ofEnvironment_configures keyless).1.1 hsome).2 with hlacks | hset
    · exact absurd hlacks (by decide)
    · exact hset (by decide)

end Settings
end Agenda
