import Agenda.Proofs.Server.Cookies
import Agenda.Proofs.Server.Effects
/-!
# The gate before the tasks

Who is let through to the tasks, and what the others learn.  A request to the tasks whose token is not
accepted gets one and the same answer whatever the table holds, and a request whose token is accepted is
served as if there were no password.

* `Request.ToTasks` — the request goes to the tasks.
* `Request.Admitted` — its token is accepted at a moment; `Request.admitted_iff_inWindow` — an issued token is
  accepted in its window.
* `Server.refusal_eq_none_iff` — a request is refused exactly when there is a password and it is not
  admitted.
* `Server.respond_gated` — what the gate keeps back, and that it leaves no other trace.
-/

namespace Agenda

/-- The request goes to the tasks: to one of their three paths, which may have a line feed at its end. -/
def Request.ToTasks (r : Request) : Prop :=
  ∃ path ∈ ["/api/tasks", "/api/task", "/api/task/done"], r.path = path ∨ r.path = path ++ "\n"

/-- The request carries a token that is accepted at a moment: it is not empty, there is a key, and the token
passes the check with this key and the digest of the password. -/
def Request.Admitted (settings : Settings) (now : Moment) (r : Request) : Prop :=
  ∃ token, r.token? = some token ∧ token ≠ "" ∧ settings.secretKey ≠ ""
    ∧ Token.check token settings.passwordHash settings.secretKey now = .ok ()

theorem SigningKey.ne_empty_of_isUsable {key : String} (hkey : isUsable key = true) : key ≠ "" := by
  rintro rfl
  exact absurd hkey (by decide)

/-- A request with a token that was issued for the password is admitted in the window of the token. -/
theorem Request.admitted_iff_inWindow {settings : Settings} {r : Request} {token : String} {hours : Int}
    {issuedAt now : Moment}
    (hissue : Token.issue settings.passwordHash settings.secretKey hours issuedAt = .ok token)
    (htoken : r.token? = some token) (hnow : now.inUtc? ≠ none) :
    r.Admitted settings now ↔ Token.InWindow issuedAt hours now := by
  have hcheck := Token.check_issue hissue Settings.isPlainChar_of_mem_hashPassword hnow settings.passwordHash
  rw [if_pos rfl] at hcheck
  obtain ⟨-, hkey, -⟩ := Token.issue_eq_ok_iff.1 hissue
  unfold Admitted
  constructor
  · rintro ⟨token', htoken', -, -, haccepted⟩
    obtain rfl := Option.some.inj (htoken.symm.trans htoken')
    rw [hcheck] at haccepted
    by_contra hout
    rw [if_neg hout] at haccepted
    cases haccepted
  · intro hin
    refine ⟨token, htoken, Token.ne_empty_of_issue hissue, SigningKey.ne_empty_of_isUsable hkey, ?_⟩
    rw [hcheck, if_pos hin]

/-- The same settings without a password. -/
def Settings.withoutPassword (settings : Settings) : Settings :=
  { settings with password := "" }

/-- The same server without a password. -/
def ServerConfig.withoutPassword (config : ServerConfig) : ServerConfig :=
  { config with settings := config.settings.withoutPassword }

/-- Only guarded endpoints lie at the paths of the tasks. -/
theorem Endpoint.guarded_of_toTasks {r : Request} {e : Endpoint} (htasks : r.ToTasks) (he : r.Reaches e) :
    e.guarded = true := by
  have hpaths : ∀ path ∈ ["/api/tasks", "/api/task", "/api/task/done"], ∀ a ∈ all,
      a.isAt path = true ∨ a.isAt (path ++ "\n") = true → a.guarded = true := by
    decide +kernel
  obtain ⟨path, hpath, hat⟩ := htasks
  apply hpaths path hpath e (mem_all e)
  rcases hat with hat | hat
  · left
    rw [← hat]
    exact he.2
  · right
    rw [← hat]
    exact he.2

/-- A path at which there are endpoints leads nowhere else. -/
theorem Routing.of_ne_otherSlash {method path : String} (hpath : Routing.isPath path = true) :
    Routing.of method path ≠ .otherSlash := by
  unfold Routing.of
  cases Endpoint.all.find? fun e => e.isAt path && e.methods.contains method with
  | some e => simp
  | none => simp [hpath]

namespace Server

/-! ## Refusals at the gate -/

theorem refusal_of_noPassword {settings : Settings} (hpassword : settings.password = "") (now : Moment)
    (r : Request) : refusal settings now r = none := by
  unfold refusal
  rw [if_pos (by simp [Settings.authEnabled, hpassword])]

/-- A request goes on when there is no password or when it is admitted. -/
theorem refusal_eq_none_iff {settings : Settings} {now : Moment} {r : Request} :
    refusal settings now r = none ↔ settings.password = "" ∨ r.Admitted settings now := by
  by_cases hpassword : settings.password = ""
  · simp [refusal_of_noPassword hpassword, hpassword]
  · unfold refusal Request.Admitted
    rw [if_neg (by simp [Settings.authEnabled, hpassword])]
    cases htoken : r.token? with
    | none => simp [hpassword]
    | some token =>
        simp only [hpassword, false_or, Option.some.injEq, exists_eq_left']
        by_cases hempty : token = ""
        · simp [hempty]
        · by_cases hkey : settings.secretKey = ""
          · simp [hempty, hkey]
          · simp only [ne_eq, hempty, hkey, not_false_eq_true, true_and, if_false]
            cases Token.check token settings.passwordHash settings.secretKey now with
            | ok value => simp
            | error cause => cases cause <;> simp

/-! ## Requests before the gate -/

theorem isPath_of_toTasks {r : Request} (htasks : r.ToTasks) : Routing.isPath r.path = true := by
  have hpaths : ∀ path ∈ ["/api/tasks", "/api/task", "/api/task/done"],
      Routing.isPath path = true ∧ Routing.isPath (path ++ "\n") = true := by
    decide +kernel
  obtain ⟨path, hpath, hat | hat⟩ := htasks
  · rw [hat]
    exact (hpaths path hpath).1
  · rw [hat]
    exact (hpaths path hpath).2

/-- A request to the tasks is answered by an error before the gate, or else it is refused there or served. -/
theorem respond_toTasks_cases (limit : Int) {r : Request} (htasks : r.ToTasks) :
    (∃ response, 400 ≤ response.status ∧ ∀ config now s, config.settings.maxUploadSize = limit →
        respond config now s r = (response, s))
      ∨ ∃ e body, e.guarded = true ∧ ∀ config now s, config.settings.maxUploadSize = limit →
        (∀ response, refusal config.settings now r = some response → respond config now s r = (response, s))
        ∧ (refusal config.settings now r = none → respond config now s r = serve config now r body s e) := by
  rcases respond_dispatch_cases limit r with ⟨response, hstatus, hresponse⟩ | ⟨-, hdispatch⟩
  · exact Or.inl ⟨response, hstatus.1, hresponse⟩
  · cases hrouting : Routing.of r.method r.path with
    | wrongMethod =>
        refine Or.inl ⟨Response.detail 405 "Method Not Allowed", by simp, ?_⟩
        intro config now s hlimit
        rw [hdispatch config now s hlimit, dispatch, hrouting]
    | missing =>
        refine Or.inl ⟨Response.detail 404 "Not Found", by simp, ?_⟩
        intro config now s hlimit
        rw [hdispatch config now s hlimit, dispatch, hrouting]
    | otherSlash => exact absurd hrouting (Routing.of_ne_otherSlash (isPath_of_toTasks htasks))
    | found e =>
        have hguarded := Endpoint.guarded_of_toTasks htasks (Routing.of_eq_found_iff.1 hrouting)
        have henters : ∀ config now s, config.settings.maxUploadSize = limit →
            respond config now s r = enter config now r r.content s e := by
          intro config now s hlimit
          rw [hdispatch config now s hlimit, dispatch, hrouting]
        rcases enter_cases r e with ⟨response, hstatus, henter⟩ | ⟨body, -, henter⟩
        · refine Or.inl ⟨response, hstatus.1, ?_⟩
          intro config now s hlimit
          rw [henters config now s hlimit, henter]
        · refine Or.inr ⟨e, body, hguarded, ?_⟩
          intro config now s hlimit
          rw [henters config now s hlimit]
          obtain ⟨hrefused, hserved⟩ := henter config now s
          exact ⟨fun response => hrefused response hguarded, fun hnone => hserved fun _ => hnone⟩

/-! ## Two runs -/

section

variable {config : ServerConfig} {now : Moment} {r : Request}

/-- A request to the tasks that is not admitted has one answer for all states, and it changes none. -/
theorem respond_of_not_admitted (htasks : r.ToTasks) (hpassword : config.settings.password ≠ "")
    (hnot : ¬ r.Admitted config.settings now) :
    ∃ response, 400 ≤ response.status ∧ ∀ s, respond config now s r = (response, s) := by
  rcases respond_toTasks_cases config.settings.maxUploadSize htasks with
    ⟨response, hstatus, hresponse⟩ | ⟨e, body, -, hresponse⟩
  · exact ⟨response, hstatus, fun s => hresponse config now s rfl⟩
  · cases hrefusal : refusal config.settings now r with
    | none =>
        rcases refusal_eq_none_iff.1 hrefusal with hempty | hadmitted
        · exact absurd hempty hpassword
        · exact absurd hadmitted hnot
    | some response =>
        exact ⟨response, status_refusal hrefusal, fun s => (hresponse config now s rfl).1 response hrefusal⟩

/-- What a guarded endpoint answers does not depend on the password. -/
theorem serve_withoutPassword {e : Endpoint} (hguarded : e.guarded = true) (body : Option Json)
    (s : ServerState) : serve config.withoutPassword now r body s e = serve config now r body s e := by
  cases e with
  | health => cases hguarded
  | signIn => cases hguarded
  | previewDate => cases hguarded
  | description page => cases hguarded
  | _ => rfl

/-- A request to the tasks that is admitted is answered as if there were no password. -/
theorem respond_of_admitted (htasks : r.ToTasks) (hadmitted : r.Admitted config.settings now)
    (s : ServerState) : respond config now s r = respond config.withoutPassword now s r := by
  rcases respond_toTasks_cases config.settings.maxUploadSize htasks with
    ⟨response, -, hresponse⟩ | ⟨e, body, hguarded, hresponse⟩
  · rw [hresponse config now s rfl, hresponse config.withoutPassword now s rfl]
  · have hserved := (hresponse config now s rfl).2 (refusal_eq_none_iff.2 (Or.inr hadmitted))
    have hopen := (hresponse config.withoutPassword now s rfl).2 (refusal_of_noPassword rfl now r)
    rw [hserved, hopen, serve_withoutPassword hguarded]

/-- Without a password no answer depends on the cookies. -/
theorem respond_cookies (hpassword : config.settings.password = "") (s : ServerState)
    (cookies : Option String) :
    respond config now s { r with cookies := cookies } = respond config now s r := by
  have hserve : ∀ body e, serve config now { r with cookies := cookies } body s e
      = serve config now r body s e := by
    intro body e
    cases e <;> rfl
  have henter : ∀ content e, enter config now { r with cookies := cookies } content s e
      = enter config now r content s e := by
    intro content e
    simp only [enter, refusal_of_noPassword hpassword, hserve]
    rfl
  simp only [respond, dispatch, henter]
  rfl

end

/-- The gate before the tasks.  With a password, a request that is not admitted gets an error that is the same for
all states, and changes none; a request that is admitted is answered as if there were no password.  Without a
password, the cookies make no difference. -/
theorem respond_gated (config : ServerConfig) (now : Moment) {r : Request} (htasks : r.ToTasks) :
    (config.settings.password ≠ "" → ¬ r.Admitted config.settings now →
        ∃ response, 400 ≤ response.status ∧ ∀ s, respond config now s r = (response, s))
      ∧ (config.settings.password ≠ "" → r.Admitted config.settings now →
        ∀ s, respond config now s r = respond config.withoutPassword now s r)
      ∧ (config.settings.password = "" → ∀ s cookies,
        respond config now s { r with cookies := cookies } = respond config now s r) :=
  ⟨fun hpassword hnot => respond_of_not_admitted htasks hpassword hnot,
    fun _ hadmitted s => respond_of_admitted htasks hadmitted s,
    fun hpassword s cookies => respond_cookies hpassword s cookies⟩

/-- A list that is asked for without a token, with one, and where there is no password. -/
theorem respond_gated_list :
    let config : ServerConfig := { settings := { password := "gate", secretKey := "key" } }
    let now := Moment.midnight ⟨2024, 1, 26, by decide⟩
    let list : Request := { method := "GET", path := "/api/tasks" }
    (∃ response, 400 ≤ response.status ∧ ∀ s, respond config now s list = (response, s))
      ∧ (∃ token, Token.issue config.settings.passwordHash "key" 8 now = .ok token
        ∧ ∀ s, respond config now s { list with cookies := some ("token=" ++ token) }
          = respond config.withoutPassword now s { list with cookies := some ("token=" ++ token) })
      ∧ ∀ s, respond config.withoutPassword now s { list with cookies := some "token=old" }
        = respond config.withoutPassword now s list := by
  intro config now list
  have htasks : list.ToTasks := ⟨"/api/tasks", by decide, Or.inl rfl⟩
  refine ⟨?_, ?_, fun s => (respond_gated config.withoutPassword now htasks).2.2 rfl s (some "token=old")⟩
  · apply (respond_gated config now htasks).1 (by decide)
    rintro ⟨token, htoken, -⟩
    cases htoken
  · have hissuable : Token.Issuable now 8 := ⟨by decide +kernel, by decide +kernel, by decide +kernel⟩
    obtain ⟨token, hissue⟩ := Token.exists_issue hissuable
      (by decide +kernel : SigningKey.isUsable "key" = true) config.settings.passwordHash
    refine ⟨token, hissue, ?_⟩
    have hin : Token.InWindow now 8 now := (Token.inWindow_iff (by decide +kernel) (by decide +kernel)).2
      (by decide +kernel)
    apply (respond_gated config now ⟨"/api/tasks", by decide, Or.inl rfl⟩).2.1 (by decide)
    exact (Request.admitted_iff_inWindow hissue (Request.token?_of_cookies hissue rfl) (by decide +kernel)).2 hin

end Server
end Agenda
