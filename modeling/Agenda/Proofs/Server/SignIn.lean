import Agenda.Proofs.Server.Attempts
import Agenda.Proofs.Server.Gate
/-!
# Tokens from a sign-in

The token that is given to a client when it signs in opens the tasks for a number of hours, and neither earlier
nor later.

* `Server.respond_signIn_of_status`, `Server.exchangePassword_of_status` — a sign-in that succeeds answers an
  issued token.
* `Server.Opens` — a token opens the tasks at certain times and at no others.
* `Server.token_roundTrip` — what the check says of every issued token, and when the token of a sign-in opens the
  tasks.
-/

namespace Agenda

namespace Server

variable {config : ServerConfig} {now : Moment} {s : ServerState} {r : Request}

/-! ## Signing in -/

/-- An exchange of the password that succeeds answers a token that is issued by the clock. -/
theorem exchangePassword_of_status {settings : Settings} {password : JsonString}
    (hstatus : (exchangePassword settings now password).status = 200) :
    settings.password ≠ "" ∧ ∃ token,
      Token.issueNow settings.passwordHash settings.secretKey settings.tokenLifetimeHours now = .ok token
      ∧ exchangePassword settings now password = Response.json 200 (Json.ofFields [("token", .ofText token)]) := by
  unfold exchangePassword at hstatus ⊢
  by_cases hpassword : settings.password = ""
  · rw [if_pos hpassword] at hstatus
    cases hstatus
  by_cases hkey : settings.secretKey = ""
  · rw [if_neg hpassword, if_pos hkey] at hstatus
    cases hstatus
  by_cases hother : password ≠ .text settings.password
  · rw [if_neg hpassword, if_neg hkey, if_pos hother] at hstatus
    cases hstatus
  rw [if_neg hpassword, if_neg hkey, if_neg hother] at hstatus ⊢
  cases hissue : Token.issueNow settings.passwordHash settings.secretKey settings.tokenLifetimeHours now with
  | error cause =>
      rw [hissue] at hstatus
      cases hstatus
  | ok token => exact ⟨hpassword, token, rfl, rfl⟩

/-- A sign-in that succeeds is an exchange of the password. -/
theorem respond_signIn_of_status (hreaches : r.Reaches .signIn)
    (hstatus : (respond config now s r).1.status = 200) :
    ∃ password, (respond config now s r).1 = exchangePassword config.settings now password := by
  cases htried : r.triedPassword? config.settings.maxUploadSize with
  | none =>
      obtain ⟨response, hrefused, hresponse⟩ := turnedAway_of_not_tried hreaches htried
      rw [hresponse config now s rfl] at hstatus
      exact absurd hstatus hrefused.1
  | some password =>
      refine ⟨password, ?_⟩
      rw [respond_of_tried htried] at hstatus ⊢
      split at hstatus
      · next hallowed => rw [if_pos hallowed]
      · cases hstatus

/-! ## The window of a token -/

/-- A token opens the tasks at certain times and at no others: a request to the tasks that carries it is answered
as if there were no password, or it gets an error that is the same for all states and changes none. -/
def Opens (config : ServerConfig) (token : String) (window : Moment → Prop) : Prop :=
  ∀ clock r, clock.inUtc? ≠ none → r.ToTasks → r.token? = some token →
    (window clock → ∀ s, respond config clock s r = respond config.withoutPassword clock s r)
      ∧ (¬ window clock → ∃ response, 400 ≤ response.status ∧ ∀ s, respond config clock s r = (response, s))

/-- A token that is issued for the password of a server opens the tasks in its window. -/
theorem opens_of_issue {token : String} {hours : Int} {issuedAt : Moment}
    (hpassword : config.settings.password ≠ "")
    (hissue : Token.issue config.settings.passwordHash config.settings.secretKey hours issuedAt = .ok token) :
    Opens config token (Token.InWindow issuedAt hours) := by
  intro clock r hclock htasks htoken
  have hadmitted := Request.admitted_iff_inWindow hissue htoken hclock
  constructor
  · intro hin
    exact respond_of_admitted htasks (hadmitted.2 hin)
  · intro hout
    exact respond_of_not_admitted htasks hpassword fun h => hout (hadmitted.1 h)

/-- Every token that is issued for a password is accepted in its window, for the digest of this password and for
no other; in the window another digest is what is wrong, and outside of it the token itself.  The token of a
sign-in opens the tasks in the window that begins at the time of the sign-in. -/
theorem token_roundTrip :
    (∀ password key hours issuedAt, SigningKey.isUsable key = true → Token.Issuable issuedAt hours →
      ∃ token, Token.issue (Settings.hashPassword password) key hours issuedAt = .ok token
        ∧ ∀ clock, clock.inUtc? ≠ none →
          (∀ hash, (Token.check token hash key clock).mapError TokenRejection.message
            = if Token.InWindow issuedAt hours clock then
                if hash = Settings.hashPassword password then .ok () else .error "invalid password hash"
              else .error "failed to parse token")
          ∧ (clock.ComparesExactly → (Token.InWindow issuedAt hours clock
            ↔ issuedAt.seconds * microsPerSecond ≤ clock.sinceEpoch
              ∧ clock.sinceEpoch < (issuedAt.seconds + 3600 * hours) * microsPerSecond)))
    ∧ ∀ config now s r, r.Reaches .signIn → (respond config now s r).1.status = 200 →
      ∃ token, (respond config now s r).1 = Response.json 200 (Json.ofFields [("token", .ofText token)])
        ∧ Opens config token (Token.InWindow now config.settings.tokenLifetimeHours) := by
  constructor
  · intro password key hours issuedAt hkey hissuable
    obtain ⟨token, hissue⟩ := Token.exists_issue hissuable hkey (Settings.hashPassword password)
    refine ⟨token, hissue, fun clock hclock => ⟨?_, fun hexact => Token.inWindow_iff hexact hclock⟩⟩
    intro hash
    rw [Token.check_issue hissue Settings.isPlainChar_of_mem_hashPassword hclock]
    by_cases hin : Token.InWindow issuedAt hours clock
    · by_cases hsame : hash = Settings.hashPassword password
      · simp only [if_pos hin, if_pos hsame]
        rfl
      · simp only [if_pos hin, if_neg hsame]
        rfl
    · simp only [if_neg hin]
      rfl
  · intro config now s r hreaches hstatus
    obtain ⟨password, hexchange⟩ := respond_signIn_of_status hreaches hstatus
    rw [hexchange] at hstatus ⊢
    obtain ⟨hpassword, token, hissueNow, hresponse⟩ := exchangePassword_of_status hstatus
    obtain ⟨utc, hutc, hissue⟩ := Token.issueNow_eq_ok_iff.1 hissueNow
    refine ⟨token, hresponse, ?_⟩
    rw [← Token.inWindow_inUtc? hutc]
    exact opens_of_issue hpassword hissue

/-- A token that is issued for eight hours in the middle of a second, and one from a sign-in. -/
theorem token_roundTrip_eightHours :
    let issuedAt : Moment := ⟨⟨2024, 1, 26, by decide⟩, 500000, 180, by decide⟩
    let last : Moment := ⟨⟨2024, 1, 26, by decide⟩, 17999999999, 0, by decide⟩
    let expiry : Moment := ⟨⟨2024, 1, 26, by decide⟩, 18000000000, 0, by decide⟩
    let hash := Settings.hashPassword "gate"
    let config : ServerConfig := { settings := { password := "gate", secretKey := "key" } }
    let signingIn : Request :=
      { method := "POST", path := "/api/signin", contentType := some "application/json"
        payload := .announced (Text.utf8 "\x7b\"password\":\"gate\"\x7d") }
    (∃ token, Token.issue hash "key" 8 issuedAt = .ok token
        ∧ (Token.check token hash "key" last).mapError TokenRejection.message = .ok ()
        ∧ (Token.check token "" "key" last).mapError TokenRejection.message = .error "invalid password hash"
        ∧ (Token.check token hash "key" expiry).mapError TokenRejection.message = .error "failed to parse token")
      ∧ ∃ token, (respond config issuedAt initial signingIn).1
          = Response.json 200 (Json.ofFields [("token", .ofText token)])
        ∧ Opens config token (Token.InWindow issuedAt 8) := by
  intro issuedAt last expiry hash config signingIn
  constructor
  · have hissuable : Token.Issuable issuedAt 8 := ⟨by decide +kernel, by decide +kernel, by decide +kernel⟩
    obtain ⟨token, hissue, hcheck⟩ := token_roundTrip.1 "gate" "key" 8 issuedAt (by decide +kernel) hissuable
    obtain ⟨hlast, hlastWindow⟩ := hcheck last (by decide +kernel)
    obtain ⟨hexpiry, hexpiryWindow⟩ := hcheck expiry (by decide +kernel)
    have hin : Token.InWindow issuedAt 8 last := (hlastWindow (by decide +kernel)).2 (by decide +kernel)
    have hout : ¬ Token.InWindow issuedAt 8 expiry :=
      mt (hexpiryWindow (by decide +kernel)).1 (by decide +kernel)
    refine ⟨token, hissue, ?_, ?_, ?_⟩
    · rw [hlast, if_pos hin, if_pos rfl]
    · rw [hlast, if_pos hin, if_neg (by decide +kernel)]
    · rw [hexpiry, if_neg hout]
  · exact token_roundTrip.2 config issuedAt initial signingIn ⟨by decide, by decide⟩ (by decide +kernel)

/-- Not every text serves as a key; the time of expiry can lie in the calendar in UTC and not on the clock of the
issue; and far from 1970 a token can end a microsecond too early. -/
theorem token_roundTrip_fails :
    let hash := Settings.hashPassword "gate"
    let eastern : Moment := ⟨⟨9999, 12, 31, by decide⟩, 82800000000, 300, by decide⟩
    let issuedAt : Moment := ⟨⟨4999, 12, 31, by decide⟩, 82801000000, 0, by decide⟩
    let clock : Moment := ⟨⟨5000, 1, 1, by decide⟩, 999999, 0, by decide⟩
    Token.issue hash "ssh-ed25519" 8 (Moment.midnight ⟨2024, 1, 26, by decide⟩) = .error .unusableKey
      ∧ (Token.inCalendar eastern.sinceEpoch = true
        ∧ Token.inCalendar (eastern.sinceEpoch + 3 * Token.microsPerHour) = true
        ∧ Token.issue hash "key" 3 eastern = .error .outsideCalendar)
      ∧ issuedAt.seconds * microsPerSecond ≤ clock.sinceEpoch
      ∧ clock.sinceEpoch < (issuedAt.seconds + 3600 * 1) * microsPerSecond
      ∧ ∃ token, Token.issue hash "key" 1 issuedAt = .ok token
        ∧ Token.check token hash "key" clock = .error .unacceptable := by
  intro hash eastern issuedAt clock
  refine ⟨by decide +kernel, ⟨by decide +kernel, by decide +kernel, by decide +kernel⟩, by decide +kernel,
    by decide +kernel, ?_⟩
  have hissuable : Token.Issuable issuedAt 1 := ⟨by decide +kernel, by decide +kernel, by decide +kernel⟩
  obtain ⟨token, hissue⟩ :=
    Token.exists_issue hissuable (by decide +kernel : SigningKey.isUsable "key" = true) hash
  have hout : ¬ Token.InWindow issuedAt 1 clock := by
    decide +kernel
  refine ⟨token, hissue, ?_⟩
  rw [Token.check_issue hissue Settings.isPlainChar_of_mem_hashPassword (by decide +kernel), if_neg hout]

end Server
end Agenda
