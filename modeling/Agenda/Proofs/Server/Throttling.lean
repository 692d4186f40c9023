import Agenda.Proofs.Calendar.Moments
import Agenda.Proofs.Server.Attempts
/-!
# Throttled sign-ins

In each window of a source as many sign-ins as allowed come to the comparison of the password, and the others are
refused.  A window closes a rounded time after it opens, and a new one opens with the next attempt, so that twice as
many can be answered in the time of one window.

* `AttemptRate.Covers` — a time falls into a window that opens at another one;
  `AttemptRate.covers_of_sinceEpoch` — a window covers its whole period, as long as the times are not too far from 1970.
* `Server.Rationed` — the first steps compare the password, and the others are refused.
* `Server.Attempts.rationed_of_opening` — so it is in a window that opens.
* `Server.Attempts.countP_answers_le` — how many attempts are answered in the time of one window, wherever it begins.
* `Server.map_response_signsIn` — the sign-ins of a client are answered as if no other client sent requests.
* `Server.steps_throttled` — all of this for a run of requests.
-/

namespace Agenda

/-- A time falls into a window of a source that opens at another time. -/
def AttemptRate.Covers (rate : AttemptRate) (start time : Rat) : Prop :=
  start ≤ time ∧ time < Binary64.nearest (start + rate.period)

instance (rate : AttemptRate) (start time : Rat) : Decidable (rate.Covers start time) :=
  inferInstanceAs (Decidable (_ ∧ _))

/-- Less than `2 ^ 32` seconds away from 1970 a window of whole seconds covers the moments of its period. -/
theorem AttemptRate.covers_of_sinceEpoch {rate : AttemptRate} {seconds : Nat} {start m : Moment}
    (hperiod : rate.period = seconds) (hstart : |start.sinceEpoch| < 2 ^ 32 * microsPerSecond)
    (hm : |m.sinceEpoch| < 2 ^ 32 * microsPerSecond) (hle : start.sinceEpoch ≤ m.sinceEpoch)
    (hlt : m.sinceEpoch < start.sinceEpoch + seconds * microsPerSecond) :
    rate.Covers start.timestamp m.timestamp := by
  refine ⟨Moment.timestamp_mono hle, ?_⟩
  rw [hperiod]
  exact Moment.timestamp_lt_nearest_add hstart hm hlt

namespace Server

variable {config : ServerConfig} {now : Moment} {s s' : ServerState} {r : Request} {source : AttemptSource}
  {step : Step} {early rest tries : List Step} {last last' last'' : Option AttemptWindow} {w : AttemptWindow}
  {start time : Rat}

/-! ## Steps that are rationed -/

/-- The first steps, up to a number of them, compare the password, and the others are refused. -/
def Rationed (config : ServerConfig) (n : Nat) (tries : List Step) : Prop :=
  (∀ step ∈ tries.take n, step.Compares config)
    ∧ ∀ step ∈ tries.drop n, step.response = Response.tooManyAttempts config.signInRate

theorem rationed_nil (config : ServerConfig) (n : Nat) : Rationed config n [] := by
  simp [Rationed]

theorem Rationed.cons_compares {n : Nat} (hrest : Rationed config n rest) (hstep : step.Compares config) :
    Rationed config (n + 1) (step :: rest) :=
  ⟨List.forall_mem_cons.2 ⟨hstep, hrest.1⟩, hrest.2⟩

theorem Rationed.cons_refused (hrest : Rationed config 0 rest)
    (hstep : step.response = Response.tooManyAttempts config.signInRate) : Rationed config 0 (step :: rest) :=
  ⟨by simp, List.forall_mem_cons.2 ⟨hstep, hrest.2⟩⟩

theorem not_answers_of_refused (hstep : step.response = Response.tooManyAttempts config.signInRate) :
    ¬ step.Answers source := by
  rintro ⟨-, -, hstatus⟩
  have hlimited : step.response.status = 429 := by
    rw [hstep]
    rfl
  omega

/-- No more rationed steps are answered with 200 or 401 than their number allows. -/
theorem Rationed.countP_answers_le {n : Nat} (h : Rationed config n tries) (source : AttemptSource) :
    (tries.countP fun step => step.Answers source) ≤ n := by
  have hfirst : ((tries.take n).countP fun step => step.Answers source) ≤ n :=
    List.countP_le_length.trans (List.length_take_le n tries)
  have hothers : ((tries.drop n).countP fun step => step.Answers source) = 0 := by
    rw [List.countP_eq_zero]
    intro step hstep
    simpa using not_answers_of_refused (h.2 step hstep)
  rw [← List.take_append_drop n tries, List.countP_append]
  omega

/-! ## Windows of a source -/

/-- The steps come in the order of their timestamps. -/
def InTime (tries : List Step) : Prop :=
  tries.Pairwise fun a b => a.now.timestamp ≤ b.now.timestamp

theorem InTime.filter_eq_nil (htimes : InTime (step :: rest)) (hlate : ¬ step.now.timestamp < time) :
    ((step :: rest).filter fun later => later.now.timestamp < time) = [] := by
  have hlater := (List.pairwise_cons.1 htimes).1
  rw [List.filter_eq_nil_iff]
  intro later hmem
  rcases List.mem_cons.1 hmem with rfl | hmem
  · simpa using hlate
  · simpa using (not_lt.1 hlate).trans (hlater later hmem)

/-- In a window that is open as many attempts compare the password as are left of the allowed ones. -/
theorem Attempts.rationed (h : Attempts config (some w) tries last') (htimes : InTime tries) :
    Rationed config (config.signInRate.allowed - w.attempts)
      (tries.filter fun step => step.now.timestamp < w.closes) := by
  generalize hlast : some w = last at h
  induction h generalizing w with
  | nil => exact rationed_nil config _
  | @cons _ _ step rest _ hw hallowed hrefused _ ih =>
      subst hlast
      by_cases hopen : step.now.timestamp < w.closes
      · rw [Throttle.following_of_open hopen] at hw
        subst hw
        have hrest := ih htimes.of_cons rfl
        rw [List.filter_cons_of_pos (by simpa using hopen)]
        by_cases hleft : w.attempts + 1 ≤ config.signInRate.allowed
        · rw [show config.signInRate.allowed - w.attempts
            = config.signInRate.allowed - (w.attempts + 1) + 1 by omega]
          exact hrest.cons_compares (hallowed hleft)
        · have hzero : config.signInRate.allowed - (w.attempts + 1) = 0 := by
            omega
          rw [show config.signInRate.allowed - w.attempts = 0 by omega]
          rw [hzero] at hrest
          exact hrest.cons_refused (hrefused (not_le.1 hleft))
      · rw [htimes.filter_eq_nil hopen]
        exact rationed_nil config _

/-- In a window that opens the allowed number of attempts compare the password, and the others are refused. -/
theorem Attempts.rationed_of_opening (h : Attempts config last (step :: rest) last')
    (hopening : (last.filter fun w => step.now.timestamp < w.closes) = none) (htimes : InTime (step :: rest)) :
    Rationed config config.signInRate.allowed ((step :: rest).filter fun later =>
      later.now.timestamp < Binary64.nearest (step.now.timestamp + config.signInRate.period)) := by
  by_cases hbefore :
      step.now.timestamp < Binary64.nearest (step.now.timestamp + config.signInRate.period)
  · -- The attempt is counted as if it found a window that is open and has counted none.
    have hsame : Attempts config (some ⟨Binary64.nearest (step.now.timestamp + config.signInRate.period), 0⟩)
        (step :: rest) last' := by
      cases h with
      | cons hw hallowed hrefused hrest =>
          rw [Throttle.following_of_closed hopening] at hw
          exact .cons ((Throttle.following_of_open hbefore).trans hw) hallowed hrefused hrest
    exact hsame.rationed htimes
  · rw [htimes.filter_eq_nil hbefore]
    exact rationed_nil config _

/-- A window stays the same until it closes. -/
theorem Attempts.closes_eq (h : Attempts config (some w) tries last')
    (htimes : ∀ step ∈ tries, step.now.timestamp < w.closes) : ∃ w', last' = some w' ∧ w'.closes = w.closes := by
  generalize hlast : some w = last at h
  induction h generalizing w with
  | nil => exact ⟨w, hlast.symm, rfl⟩
  | cons hw _ _ _ ih =>
      subst hlast
      obtain ⟨hopen, hrest⟩ := List.forall_mem_cons.1 htimes
      rw [Throttle.following_of_open hopen] at hw
      obtain ⟨w', hlast, hcloses⟩ := ih (w := { w with attempts := w.attempts + 1 }) hrest (congrArg some hw)
      exact ⟨w', hlast, hcloses⟩

/-- After an attempt in a window that would open at a time, a window is open until that time has passed. -/
theorem Attempts.exists_open (h : Attempts config last tries last')
    (hbefore : ∀ step ∈ tries, step.now.timestamp ≤ start) (hstep : step ∈ tries)
    (hcovers : config.signInRate.Covers start step.now.timestamp) : ∃ w, last' = some w ∧ start < w.closes := by
  induction h with
  | nil => cases hstep
  | @cons last _ first rest w hw _ _ hrest ih =>
      obtain ⟨hfirst, hothers⟩ := List.forall_mem_cons.1 hbefore
      rcases List.mem_cons.1 hstep with rfl | hstep
      · have hstart : step.now.timestamp = start := le_antisymm hfirst hcovers.1
        have hopen : start < w.closes := by
          rw [← hw, ← hstart]
          refine Throttle.lt_closes_following ?_
          rw [hstart]
          exact hstart ▸ hcovers.2
        obtain ⟨w', hlast, hcloses⟩ := hrest.closes_eq fun later hlater => (hothers later hlater).trans_lt hopen
        exact ⟨w', hlast, hcloses ▸ hopen⟩
      · exact ih hothers hstep

/-- No attempt before an opening falls into the window that opens. -/
theorem Attempts.filter_covers_eq_nil (h : Attempts config last tries last')
    (hopening : (last'.filter fun w => start < w.closes) = none)
    (hbefore : ∀ step ∈ tries, step.now.timestamp ≤ start) :
    (tries.filter fun step => config.signInRate.Covers start step.now.timestamp) = [] := by
  rw [List.filter_eq_nil_iff]
  intro step hstep hcovers
  obtain ⟨w, rfl, hopen⟩ := h.exists_open hbefore hstep (of_decide_eq_true hcovers)
  rw [Option.filter_eq_none_iff] at hopening
  exact hopening w rfl (by simpa using hopen)

/-- The attempts that fall into a window are rationed, whatever came before it opened. -/
theorem Attempts.rationed_covers (hearly : Attempts config last early last')
    (hlate : Attempts config last' (step :: rest) last'')
    (hopening : (last'.filter fun w => step.now.timestamp < w.closes) = none)
    (htimes : InTime (early ++ step :: rest)) :
    Rationed config config.signInRate.allowed ((early ++ step :: rest).filter fun other =>
      config.signInRate.Covers step.now.timestamp other.now.timestamp) := by
  obtain ⟨-, hfrom, hbetween⟩ := List.pairwise_append.1 htimes
  rw [List.filter_append, hearly.filter_covers_eq_nil hopening fun earlier hearlier =>
    hbetween earlier hearlier step (by simp), List.nil_append]
  have hcovers : ∀ later ∈ step :: rest,
      config.signInRate.Covers step.now.timestamp later.now.timestamp
        ↔ later.now.timestamp < Binary64.nearest (step.now.timestamp + config.signInRate.period) := by
    intro later hlater
    have hle : step.now.timestamp ≤ later.now.timestamp := by
      rcases List.mem_cons.1 hlater with rfl | hlater
      · exact le_refl _
      · exact (List.pairwise_cons.1 hfrom).1 later hlater
    exact and_iff_right hle
  rw [List.filter_congr fun later hlater => decide_eq_decide.2 (hcovers later hlater)]
  exact hlate.rationed_of_opening hopening hfrom

/-! ## Intervals as long as a window -/

/-- From a time on, as long as a window that opens then, the attempts that are left of an open window and those that
are allowed in one more window are answered. -/
theorem Attempts.countP_answers_le_add (h : Attempts config last tries last') (htimes : InTime tries)
    (hstart : ∀ step ∈ tries, start ≤ step.now.timestamp) (source : AttemptSource) :
    (tries.countP fun step => step.Answers source ∧ config.signInRate.Covers start step.now.timestamp)
      ≤ (last.elim 0 fun w => config.signInRate.allowed - w.attempts) + config.signInRate.allowed := by
  induction h with
  | nil => simp
  | @cons last last' step rest w hw hallowed hrefused hrest ih =>
      cases hopen : last.filter fun w => step.now.timestamp < w.closes with
      | none =>
          have hrationed := (Attempts.cons hw hallowed hrefused hrest).rationed_of_opening hopen htimes
          have hcloses := Binary64.nearest_mono
            (add_le_add_left (hstart step (by simp)) config.signInRate.period)
          refine le_trans ?_ ((hrationed.countP_answers_le source).trans (Nat.le_add_left _ _))
          rw [List.countP_filter]
          refine List.countP_mono_left fun later _ hlater => ?_
          simp only [decide_eq_true_eq, Bool.and_eq_true] at hlater ⊢
          exact ⟨hlater.1, hlater.2.2.trans_le hcloses⟩
      | some found =>
          obtain ⟨rfl, hlt⟩ := Option.filter_eq_some_iff.1 hopen
          rw [Throttle.following_of_open (by simpa using hlt)] at hw
          subst hw
          have hcount := ih htimes.of_cons fun later hlater => hstart later (List.mem_cons_of_mem _ hlater)
          rw [List.countP_cons]
          simp only [Option.elim] at hcount ⊢
          by_cases hleft : found.attempts + 1 ≤ config.signInRate.allowed
          · split <;> omega
          · rw [if_neg]
            · omega
            · simpa using fun hanswers => absurd hanswers (not_answers_of_refused (hrefused (not_le.1 hleft)))

/-- Wherever it begins, in the time of one window at most twice as many attempts as allowed are answered. -/
theorem Attempts.countP_answers_le (h : Attempts config last tries last') (htimes : InTime tries)
    (source : AttemptSource) (start : Rat) :
    (tries.countP fun step => step.Answers source ∧ config.signInRate.Covers start step.now.timestamp)
      ≤ 2 * config.signInRate.allowed := by
  induction h with
  | nil => simp
  | @cons last last' step rest w hw hallowed hrefused hrest ih =>
      by_cases hstart : start ≤ step.now.timestamp
      · have hfrom : ∀ later ∈ step :: rest, start ≤ later.now.timestamp :=
          List.forall_mem_cons.2 ⟨hstart, fun later hlater =>
            hstart.trans ((List.pairwise_cons.1 htimes).1 later hlater)⟩
        have hcount := (Attempts.cons hw hallowed hrefused hrest).countP_answers_le_add htimes hfrom source
        have hleft : (last.elim 0 fun w => config.signInRate.allowed - w.attempts) ≤ config.signInRate.allowed := by
          cases last with
          | none => exact Nat.zero_le _
          | some w => exact Nat.sub_le _ _
        omega
      · rw [List.countP_cons_of_neg]
        · exact ih htimes.of_cons
        · simpa using fun _ hcovers => absurd hcovers.1 hstart

/-! ## Runs -/

/-- A step opens a window when its attempt is counted and no window of its source is open. -/
def Step.Opens (config : ServerConfig) (step : Step) : Prop :=
  step.Tries config step.request.source
    ∧ step.before.attempts.window? step.request.source step.now.timestamp = none

instance (step : Step) : Decidable (step.Opens config) :=
  inferInstanceAs (Decidable (_ ∧ _))

/-- The step is a request of the client at the sign-in. -/
def Step.SignsIn (client : String) (step : Step) : Prop :=
  step.request.clientName = client ∧ step.request.Reaches .signIn

instance (client : String) (step : Step) : Decidable (step.SignsIn client) :=
  inferInstanceAs (Decidable (_ ∧ _))

variable {requests : List (Moment × Request)}

/-- The steps of a run whose clocks do not go back come in the order of their timestamps. -/
theorem inTime_steps (config : ServerConfig) (s : ServerState)
    (hclocks : requests.Pairwise fun a b => a.1.sinceEpoch ≤ b.1.sinceEpoch) :
    InTime (steps config s requests) := by
  have hmoments : (requests.map Prod.fst).Pairwise fun a b => a.sinceEpoch ≤ b.sinceEpoch :=
    List.pairwise_map.2 hclocks
  rw [← map_now_steps config s requests, List.pairwise_map] at hmoments
  exact hmoments.imp fun hle => Moment.timestamp_mono hle

/-- The attempts of a run that fall into a window that opens in it are rationed. -/
theorem rationed_of_opens (hclocks : requests.Pairwise fun a b => a.1.sinceEpoch ≤ b.1.sinceEpoch)
    (hstep : step ∈ steps config s requests) (hopens : step.Opens config) :
    Rationed config config.signInRate.allowed ((steps config s requests).filter fun other =>
      other.Tries config step.request.source
        ∧ config.signInRate.Covers step.now.timestamp other.now.timestamp) := by
  obtain ⟨early, now, r, late, rfl, rfl⟩ := exists_append_of_mem_steps hstep
  obtain ⟨htries, hopening⟩ := hopens
  rw [Throttle.window?_eq] at hopening
  have hearly := attempts_of_steps config r.source s early
  have hlate := attempts_of_steps config r.source (run config s early).2 ((now, r) :: late)
  have htimes := (inTime_steps config s hclocks).filter fun other => other.Tries config r.source
  have hcounted : ∀ rest, ((Step.take config (run config s early).2 now r :: rest).filter fun other =>
      other.Tries config r.source)
        = Step.take config (run config s early).2 now r :: rest.filter fun other =>
            other.Tries config r.source :=
    fun rest => List.filter_cons_of_pos (decide_eq_true htries)
  rw [steps, hcounted] at hlate
  rw [steps_append, steps, List.filter_append, hcounted] at htimes
  have hrationed := hearly.rationed_covers hlate hopening htimes
  rw [← hcounted, ← List.filter_append, List.filter_comm, List.filter_filter] at hrationed
  rw [steps_append, steps]
  simp only [Bool.decide_and]
  exact hrationed

/-- The sign-ins of a source that are answered in a run are among the attempts that are counted for it. -/
theorem tries_of_answers (hstep : step ∈ steps config s requests) (hanswers : step.Answers source) :
    step.Tries config source := by
  obtain ⟨early, now, r, late, -, rfl⟩ := exists_append_of_mem_steps hstep
  exact Step.tries_of_answers hanswers

/-- The sign-ins of a client are answered as if no other client sent requests. -/
theorem map_response_signsIn (config : ServerConfig) (requests : List (Moment × Request)) (client : String)
    (hsame : ∀ source : AttemptSource, source.client = client →
      s.attempts.last? source = s'.attempts.last? source) :
    ((steps config s requests).filter fun step => step.SignsIn client).map Step.response
      = ((steps config s' (requests.filter fun request => request.2.clientName = client)).filter fun step =>
          step.SignsIn client).map Step.response := by
  induction requests generalizing s s' with
  | nil => rfl
  | cons first rest ih =>
      obtain ⟨now, r⟩ := first
      by_cases hclient : r.clientName = client
      · have hafter : ∀ source : AttemptSource, source.client = client →
            (respond config now s r).2.attempts.last? source = (respond config now s' r).2.attempts.last? source :=
          fun source hsource => last?_congr (hsame source hsource)
        have hrest := ih hafter
        rw [List.filter_cons_of_pos (by simpa using hclient), steps, steps]
        by_cases hreaches : r.Reaches .signIn
        · have hsigns : ∀ s, (Step.take config s now r).SignsIn client := fun _ => ⟨hclient, hreaches⟩
          have hresponse : (Step.take config s now r).response = (Step.take config s' now r).response :=
            respond_congr hreaches (hsame r.source hclient)
          rw [List.filter_cons_of_pos (by simpa using hsigns s), List.filter_cons_of_pos (by simpa using hsigns s'),
            List.map_cons, List.map_cons, hresponse, hrest]
        · rw [List.filter_cons_of_neg (by simpa using fun h => hreaches h.2),
            List.filter_cons_of_neg (by simpa using fun h => hreaches h.2), hrest]
      · have hafter : ∀ source : AttemptSource, source.client = client →
            (respond config now s r).2.attempts.last? source = s'.attempts.last? source := by
          intro source hsource
          have hother : ¬ (Step.take config s now r).Tries config source := by
            rintro ⟨-, rfl⟩
            exact hclient hsource
          rw [Step.last?_of_not_tries hother, hsame source hsource]
        have hrest := ih hafter
        rw [List.filter_cons_of_neg (by simpa using hclient), steps,
          List.filter_cons_of_neg (by simpa using fun h => hclient h.1), hrest]

/-- In a run with clocks that do not go back, the attempts that fall into a window of their source compare the
password until the allowed number is reached, and the others are refused, so that no more than this number are
answered with 200 or 401.  In an interval as long as a window, wherever it begins, at most twice as many are.
A window of whole seconds covers its whole period, as long as the moments are less than `2 ^ 32` seconds away from
1970.  The sign-ins of a client are answered as if no other client sent requests. -/
theorem steps_throttled (config : ServerConfig) (s : ServerState) (requests : List (Moment × Request))
    (hclocks : requests.Pairwise fun a b => a.1.sinceEpoch ≤ b.1.sinceEpoch) :
    (∀ step ∈ steps config s requests, step.Opens config →
      Rationed config config.signInRate.allowed ((steps config s requests).filter fun other =>
        other.Tries config step.request.source
          ∧ config.signInRate.Covers step.now.timestamp other.now.timestamp)
      ∧ ((steps config s requests).countP fun other => other.Answers step.request.source
          ∧ config.signInRate.Covers step.now.timestamp other.now.timestamp) ≤ config.signInRate.allowed)
    ∧ (∀ source start, ((steps config s requests).countP fun step => step.Answers source
        ∧ config.signInRate.Covers start step.now.timestamp) ≤ 2 * config.signInRate.allowed)
    ∧ (∀ (seconds : Nat) (start m : Moment), config.signInRate.period = seconds →
      |start.sinceEpoch| < 2 ^ 32 * microsPerSecond → |m.sinceEpoch| < 2 ^ 32 * microsPerSecond →
      start.sinceEpoch ≤ m.sinceEpoch → m.sinceEpoch < start.sinceEpoch + seconds * microsPerSecond →
      config.signInRate.Covers start.timestamp m.timestamp)
    ∧ ∀ client, ((steps config s requests).filter fun step => step.SignsIn client).map Step.response
        = ((steps config s (requests.filter fun request => request.2.clientName = client)).filter fun step =>
            step.SignsIn client).map Step.response := by
  refine ⟨fun step hstep hopens => ?_, fun source start => ?_, ?_, fun client => ?_⟩
  · have hrationed := rationed_of_opens hclocks hstep hopens
    refine ⟨hrationed, le_trans ?_ (hrationed.countP_answers_le step.request.source)⟩
    rw [List.countP_filter]
    refine List.countP_mono_left fun other hother hanswers => ?_
    obtain ⟨hanswers, hcovers⟩ := of_decide_eq_true hanswers
    simpa using ⟨hanswers, tries_of_answers hother hanswers, hcovers⟩
  · have hcount := (attempts_of_steps config source s requests).countP_answers_le
      ((inTime_steps config s hclocks).filter _) source start
    refine le_trans ?_ hcount
    rw [List.countP_filter]
    refine List.countP_mono_left fun step hstep hanswers => ?_
    have hboth := of_decide_eq_true hanswers
    simpa using ⟨hboth, tries_of_answers hstep hboth.1⟩
  · intro seconds start m hperiod hstart hm hle hlt
    exact AttemptRate.covers_of_sinceEpoch hperiod hstart hm hle hlt
  · exact map_response_signsIn config requests client fun _ _ => rfl

/-- A client tries a wrong password six times at once, and another client sends one sign-in in between. -/
theorem steps_throttled_sixTries :
    let now := Moment.midnight ⟨2024, 1, 26, by decide⟩
    let config : ServerConfig :=
      { settings := { password := "s3cret", secretKey := "signing-key-for-tests-0123456789abcdef" } }
    let attempt : Request :=
      { method := "POST", path := "/api/signin", contentType := some "application/json",
        payload := .announced (Text.utf8 "\x7b\"password\":\"x\"\x7d") }
    let other : Request := { attempt with client := some "10.0.0.9" }
    let requests := List.replicate 5 (now, attempt) ++ [(now, other), (now, attempt)]
    let first := Step.take config initial now attempt
    (steps config initial requests).map (fun step => step.response.status) = [401, 401, 401, 401, 401, 401, 429]
      ∧ first.Opens config
      ∧ Rationed config 5 ((steps config initial requests).filter fun other =>
          other.Tries config attempt.source
            ∧ config.signInRate.Covers now.timestamp other.now.timestamp)
      ∧ ((steps config initial requests).countP fun step => step.Answers attempt.source
          ∧ config.signInRate.Covers now.timestamp step.now.timestamp) ≤ 10
      ∧ ((steps config initial requests).filter fun step => step.SignsIn "10.0.0.9").map Step.response
        = [Step.take config initial now other].map Step.response := by
  intro now config attempt other requests first
  have hclocks : requests.Pairwise fun a b => a.1.sinceEpoch ≤ b.1.sinceEpoch := by
    decide +kernel
  have hfirst : first ∈ steps config initial requests := List.mem_cons_self
  have hopens : first.Opens config := by
    decide +kernel
  obtain ⟨hwindows, hintervals, -, hclients⟩ := steps_throttled config initial requests hclocks
  refine ⟨by decide +kernel, hopens, (hwindows first hfirst hopens).1, hintervals _ _, ?_⟩
  have hkept : (requests.filter fun request => request.2.clientName = "10.0.0.9") = [(now, other)] := by
    decide +kernel
  have hsigns : (Step.take config initial now other).SignsIn "10.0.0.9" := ⟨rfl, by decide, by decide⟩
  have hone : ((steps config initial [(now, other)]).filter fun step => step.SignsIn "10.0.0.9")
      = [Step.take config initial now other] :=
    List.filter_cons_of_pos (decide_eq_true hsigns)
  rw [hclients "10.0.0.9", hkept, hone]

/-- One client is answered six times in the minute of a window.  It writes the path in two ways, each with a window of
its own, or the end of its window is rounded down. -/
theorem steps_throttled_exceeded :
    let config : ServerConfig :=
      { settings := { password := "s3cret", secretKey := "signing-key-for-tests-0123456789abcdef" } }
    let attempt : Request :=
      { method := "POST", path := "/api/signin", contentType := some "application/json",
        payload := .announced (Text.utf8 "\x7b\"password\":\"x\"\x7d") }
    let answered : Moment → List (Moment × Request) → Nat := fun start requests =>
      (steps config initial requests).countP fun step => step.SignsIn "127.0.0.1"
        ∧ (step.response.status = 200 ∨ step.response.status = 401)
        ∧ start.sinceEpoch ≤ step.now.sinceEpoch
        ∧ step.now.sinceEpoch < start.sinceEpoch + 60 * microsPerSecond
    let now := Moment.midnight ⟨2024, 1, 26, by decide⟩
    let opening : Moment := ⟨⟨2106, 2, 7, by decide⟩, 23236000012, 0, by decide +kernel⟩
    let closing : Moment := ⟨⟨2106, 2, 7, by decide⟩, 23296000011, 0, by decide +kernel⟩
    (Step.take config initial now attempt).Opens config
      ∧ answered now (List.replicate 5 (now, attempt) ++ [(now, { attempt with path := "/api/signin\n" })]) = 6
      ∧ (Step.take config initial opening attempt).Opens config
      ∧ answered opening (List.replicate 6 (opening, attempt) ++ [(closing, attempt)]) = 6 := by
  intro config attempt answered now opening closing
  refine ⟨?_, ?_, ?_, ?_⟩ <;> decide +kernel

end Server
end Agenda
