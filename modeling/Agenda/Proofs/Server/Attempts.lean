import Agenda.Proofs.Server.Bodies
import Agenda.Proofs.Server.Frames
import Agenda.Proofs.Throttle
/-!
# Attempts to sign in

A request at the sign-in is counted for its source once it has come as far as trying a password.  What it is
answered then depends on the last window of its source and on nothing else that the server remembers.

* `Request.triedPassword?` — the password that a request tries.
* `Server.respond_of_tried` — what a request that tries a password is answered; `Server.turnedAway_of_not_tried` —
  any other request at the sign-in is refused without being counted.
* `Server.Step.Tries`, `Server.Attempts` — the steps of a run that are counted for a source, and how they are
  answered one after the other; `Server.attempts_of_steps` — those of a run are.
-/

namespace Agenda

instance (r : Request) (e : Endpoint) : Decidable (r.Reaches e) :=
  inferInstanceAs (Decidable (_ ∧ _))

/-! ## Requests that try a password -/

/-- The password that a request tries under an upload limit, if it gets as far as being counted: it is let pass, it
reaches the sign-in, and its body is a form with a password. -/
def Request.triedPassword? (limit : Int) (r : Request) : Option JsonString :=
  match Upload.screen limit "http" r.headers r.messages, Routing.of r.method r.path,
    Server.readBody r r.content with
  | .ok (.admitted _), .found .signIn, .ok (some value) => passwordOf? value
  | _, _, _ => none

namespace Server

variable {config : ServerConfig} {now : Moment} {s s' : ServerState} {r : Request} {password : JsonString}

theorem triedPassword?_eq_some_iff {limit : Int} :
    r.triedPassword? limit = some password
      ↔ r.Passes limit ∧ r.Reaches .signIn ∧ ∃ value, r.Carries value ∧ passwordOf? value = some password := by
  constructor
  · intro h
    unfold Request.triedPassword? at h
    split at h
    · next stream value hscreen hrouting hbody =>
        exact ⟨⟨stream, hscreen⟩, Routing.of_eq_found_iff.1 hrouting, value, carries_of_readBody hbody, h⟩
    · cases h
  · rintro ⟨⟨stream, hscreen⟩, hreaches, value, hcarries, hpassword⟩
    rw [Request.triedPassword?, hscreen, Routing.of_eq_found_iff.2 hreaches, readBody_of_carries hcarries]
    exact hpassword

/-- A request that tries a password is counted for its source.  As long as its window has no more attempts than are
allowed, the password is compared; otherwise it is not looked at. -/
theorem respond_of_tried (htried : r.triedPassword? config.settings.maxUploadSize = some password) :
    respond config now s r
      = (if (Throttle.following config.signInRate now.timestamp (s.attempts.last? r.source)).attempts
            ≤ config.signInRate.allowed
          then exchangePassword config.settings now password
          else Response.tooManyAttempts config.signInRate,
        { s with attempts := (s.attempts.attempt config.signInRate r.source now.timestamp).2 }) := by
  obtain ⟨hpasses, hreaches, value, hcarries, hpassword⟩ := triedPassword?_eq_some_iff.1 htried
  have hbody : (if Endpoint.signIn.readsBody then readBody r r.content else .ok none) = .ok (some value) :=
    readBody_of_carries hcarries
  have hform : Option.bind (some value) passwordOf? = some password := hpassword
  rw [respond_of_passes config now s hpasses, dispatch_of_reaches hreaches]
  simp only [enter, hbody, Endpoint.guarded, Bool.false_eq_true, if_false, serve, signIn, hform,
    Throttle.attempt_fst, decide_eq_true_eq]
  split <;> rfl

/-- Under an upload limit the request is answered alike in all states, neither with 200 nor with 401, and it changes
none of them. -/
def TurnedAway (limit : Int) (r : Request) : Prop :=
  ∃ response : Response, (response.status ≠ 200 ∧ response.status ≠ 401)
    ∧ ∀ config now s, config.settings.maxUploadSize = limit → respond config now s r = (response, s)

/-- A request at the sign-in that tries no password is turned away before it is counted. -/
theorem turnedAway_of_not_tried {limit : Int} (hreaches : r.Reaches .signIn)
    (hnot : r.triedPassword? limit = none) : TurnedAway limit r := by
  rcases respond_dispatch_cases limit r with ⟨response, hstatus, hresponse⟩ | ⟨hpasses, hdispatch⟩
  · exact ⟨response, by omega, hresponse⟩
  have henter : ∀ config now s, config.settings.maxUploadSize = limit →
      respond config now s r = enter config now r r.content s .signIn := by
    intro config now s hlimit
    rw [hdispatch config now s hlimit, dispatch_of_reaches hreaches]
  rcases enter_cases r .signIn with ⟨response, hstatus, hresponse⟩ | ⟨body, hcarries, hserve⟩
  · refine ⟨response, by omega, fun config now s hlimit => ?_⟩
    rw [henter config now s hlimit, hresponse]
  have hform : body.bind passwordOf? = none := by
    cases htried : body.bind passwordOf? with
    | none => rfl
    | some password =>
        obtain ⟨value, rfl, hpassword⟩ := Option.bind_eq_some_iff.1 htried
        rw [triedPassword?_eq_some_iff.2 ⟨hpasses, hreaches, value, hcarries value rfl, hpassword⟩] at hnot
        cases hnot
  refine ⟨Response.badBody, by decide, fun config now s hlimit => ?_⟩
  rw [henter config now s hlimit, (hserve config now s).2 fun hguarded => by cases hguarded]
  simp only [serve, signIn, hform]

/-- No request at another endpoint changes the counted attempts. -/
theorem attempts_of_not_signIn (config : ServerConfig) (now : Moment) (s : ServerState)
    (hnot : ¬ r.Reaches .signIn) : (respond config now s r).2.attempts = s.attempts := by
  rcases respond_dispatch_cases config.settings.maxUploadSize r with ⟨response, -, hresponse⟩ | ⟨-, hdispatch⟩
  · rw [hresponse config now s rfl]
  rw [hdispatch config now s rfl]
  by_cases hreaches : ∃ e, r.Reaches e
  · obtain ⟨e, he⟩ := hreaches
    have hserved : ∀ body, (serve config now r body s e).2.attempts = s.attempts := by
      intro body
      cases e with
      | signIn => exact absurd he hnot
      | _ => rfl
    rw [dispatch_of_reaches he]
    simp only [enter]
    split
    · rfl
    · split
      · rfl
      · exact hserved _
  · obtain ⟨response, -, hresponse⟩ := dispatch_of_not_reaches (not_exists.1 hreaches)
    rw [hresponse]

/-! ## The attempts of a source -/

/-- The step tries a password, and it is counted for the source. -/
def Step.Tries (config : ServerConfig) (source : AttemptSource) (step : Step) : Prop :=
  step.request.triedPassword? config.settings.maxUploadSize ≠ none ∧ step.request.source = source

instance (config : ServerConfig) (source : AttemptSource) (step : Step) : Decidable (step.Tries config source) :=
  inferInstanceAs (Decidable (_ ∧ _))

/-- The step answers what comes out when the password that it tries is compared. -/
def Step.Compares (config : ServerConfig) (step : Step) : Prop :=
  ∃ password, step.request.triedPassword? config.settings.maxUploadSize = some password
    ∧ step.response = exchangePassword config.settings step.now password

/-- A sign-in of the source is answered with 200 or 401. -/
def Step.Answers (source : AttemptSource) (step : Step) : Prop :=
  step.request.Reaches .signIn ∧ step.request.source = source
    ∧ (step.response.status = 200 ∨ step.response.status = 401)

instance (source : AttemptSource) (step : Step) : Decidable (step.Answers source) :=
  inferInstanceAs (Decidable (_ ∧ _ ∧ _))

/-- The attempts of one source, one after the other, between two of its last windows: each is counted in the window
that it finds or opens, and answered by the number of attempts in it. -/
inductive Attempts (config : ServerConfig) : Option AttemptWindow → List Step → Option AttemptWindow → Prop
  | nil (last : Option AttemptWindow) : Attempts config last [] last
  | cons {last last' : Option AttemptWindow} {step : Step} {rest : List Step} {w : AttemptWindow}
      (hw : Throttle.following config.signInRate step.now.timestamp last = w)
      (hallowed : w.attempts ≤ config.signInRate.allowed → step.Compares config)
      (hrefused : config.signInRate.allowed < w.attempts →
        step.response = Response.tooManyAttempts config.signInRate)
      (hrest : Attempts config (some w) rest last') : Attempts config last (step :: rest) last'

variable {source : AttemptSource}

/-- A step that is counted for the source changes its last window, and its answer depends on the new one. -/
theorem Step.take_of_tries (htries : (Step.take config s now r).Tries config source) :
    let w := Throttle.following config.signInRate now.timestamp (s.attempts.last? source)
    (respond config now s r).2.attempts.last? source = some w
      ∧ (w.attempts ≤ config.signInRate.allowed → (Step.take config s now r).Compares config)
      ∧ (config.signInRate.allowed < w.attempts →
        (Step.take config s now r).response = Response.tooManyAttempts config.signInRate) := by
  intro w
  have hsource : r.source = source := htries.2
  subst hsource
  have htried : r.triedPassword? config.settings.maxUploadSize ≠ none := htries.1
  obtain ⟨password, htried⟩ := Option.ne_none_iff_exists'.1 htried
  have hrespond : respond config now s r = _ := respond_of_tried htried
  refine ⟨?_, fun hallowed => ⟨password, htried, ?_⟩, fun hrefused => ?_⟩
  · rw [hrespond]
    exact Throttle.last?_attempt.trans (if_pos rfl)
  · show (respond config now s r).1 = _
    rw [hrespond]
    exact if_pos hallowed
  · show (respond config now s r).1 = _
    rw [hrespond]
    exact if_neg (Nat.not_le.2 hrefused)

/-- A step that is not counted for the source leaves its last window alone. -/
theorem Step.last?_of_not_tries (hnot : ¬ (Step.take config s now r).Tries config source) :
    (respond config now s r).2.attempts.last? source = s.attempts.last? source := by
  by_cases hreaches : r.Reaches .signIn
  · cases htried : r.triedPassword? config.settings.maxUploadSize with
    | none =>
        obtain ⟨response, -, hrespond⟩ := turnedAway_of_not_tried hreaches htried
        rw [hrespond config now s rfl]
    | some password =>
        have hother : source ≠ r.source := by
          rintro rfl
          exact hnot ⟨by rw [show (Step.take config s now r).request = r from rfl, htried]; simp, rfl⟩
        rw [respond_of_tried htried]
        simp only [Throttle.last?_attempt, if_neg hother]
  · rw [attempts_of_not_signIn config now s hreaches]

/-- In two states in which a source has the same last window, a request leaves it with the same one. -/
theorem last?_congr (hsame : s.attempts.last? source = s'.attempts.last? source) :
    (respond config now s r).2.attempts.last? source = (respond config now s' r).2.attempts.last? source := by
  by_cases htries : (Step.take config s now r).Tries config source
  · have htries' : (Step.take config s' now r).Tries config source := htries
    rw [(Step.take_of_tries htries).1, (Step.take_of_tries htries').1, hsame]
  · have htries' : ¬ (Step.take config s' now r).Tries config source := htries
    rw [Step.last?_of_not_tries htries, Step.last?_of_not_tries htries', hsame]

/-- In two states in which its source has the same last window, a request at the sign-in is answered alike. -/
theorem respond_congr (hreaches : r.Reaches .signIn)
    (hsame : s.attempts.last? r.source = s'.attempts.last? r.source) :
    (respond config now s r).1 = (respond config now s' r).1 := by
  cases htried : r.triedPassword? config.settings.maxUploadSize with
  | none =>
      obtain ⟨response, -, hrespond⟩ := turnedAway_of_not_tried hreaches htried
      rw [hrespond config now s rfl, hrespond config now s' rfl]
  | some password => rw [respond_of_tried htried, respond_of_tried htried, hsame]

/-- In a run the steps that are counted for a source are its attempts, whatever other requests come between them. -/
theorem attempts_of_steps (config : ServerConfig) (source : AttemptSource) (s : ServerState)
    (requests : List (Moment × Request)) :
    Attempts config (s.attempts.last? source)
      ((steps config s requests).filter fun step => step.Tries config source)
      ((run config s requests).2.attempts.last? source) := by
  induction requests generalizing s with
  | nil => exact .nil _
  | cons first rest ih =>
      obtain ⟨now, r⟩ := first
      have hrest := ih (respond config now s r).2
      by_cases htries : (Step.take config s now r).Tries config source
      · obtain ⟨hlast, hallowed, hrefused⟩ := Step.take_of_tries htries
        rw [hlast] at hrest
        rw [steps, List.filter_cons_of_pos (by simpa using htries)]
        exact .cons rfl hallowed hrefused hrest
      · rw [Step.last?_of_not_tries htries] at hrest
        rwa [steps, List.filter_cons_of_neg (by simpa using htries)]

/-- Only a step that is counted for the source is answered with 200 or 401 at its sign-in. -/
theorem Step.tries_of_answers (hanswers : (Step.take config s now r).Answers source) :
    (Step.take config s now r).Tries config source := by
  obtain ⟨hreaches, hsource, hstatus⟩ := hanswers
  refine ⟨?_, hsource⟩
  intro hnone
  obtain ⟨response, hother, hrespond⟩ := turnedAway_of_not_tried hreaches hnone
  have hresponse : (Step.take config s now r).response = response :=
    congrArg Prod.fst (hrespond config now s rfl)
  rw [hresponse] at hstatus
  omega

end Server
end Agenda
