import Agenda.Proofs.Calendar.Moments
import Agenda.Proofs.Json.PlainObjects
import Agenda.Proofs.Text.Sextets
import Agenda.Settings
import Agenda.Token
/-!
# Issued tokens and their checks

A token is written from its claims and read back to them.  So what the check of an issued token says depends
only on the time of the check and on the password that it is asked about.

* `Token.Issuable` — the moments at which a token can be issued for a number of hours.
* `Token.InWindow` — the times of a clock at which it is accepted.
* `Token.issue_eq_ok_iff` — when a token is issued, and which.
* `Token.segments?_eq_some_iff` — where a token is cut.
* `Token.dissect_sign` — a signed token is taken apart into what was put together.
* `Token.check_issue` — the check of an issued token.
-/

namespace Agenda

/-! ## Password digests -/

/-- A digest in hexadecimal is a text of plain characters. -/
theorem isPlainChar_of_mem_hexText {bytes : Bytes} : ∀ c ∈ (hexText bytes).toList, Json.IsPlainChar c := by
  have hdigit : ∀ n : Fin 16, Json.IsPlainChar (Nat.digitChar n) := by
    decide
  intro c hc
  rw [hexText, String.toList_ofList, List.mem_flatMap] at hc
  obtain ⟨b, -, hc⟩ := hc
  have hb := b.toNat_lt
  simp only [List.mem_cons, List.not_mem_nil, or_false] at hc
  rcases hc with rfl | rfl
  · exact hdigit ⟨b.toNat / 16, by omega⟩
  · exact hdigit ⟨b.toNat % 16, by omega⟩

theorem Settings.isPlainChar_of_mem_hashPassword {password : String} :
    ∀ c ∈ (hashPassword password).toList, Json.IsPlainChar c := by
  unfold hashPassword
  split
  · exact fun c hc => absurd hc (by simp)
  · exact isPlainChar_of_mem_hexText

namespace Token

/-! ## Times -/

/-- A token can be issued at a moment for a number of hours: the moment and the time of expiry lie in the
calendar in UTC, and the time of expiry also on the clock that shows the moment. -/
structure Issuable (now : Moment) (hours : Int) : Prop where
  issue : inCalendar now.sinceEpoch = true
  expiry : inCalendar (now.sinceEpoch + hours * microsPerHour) = true
  face : inCalendar (now.faceMicros + hours * microsPerHour) = true

/-- The time of a clock lies in the window of a token that was issued at `now`: it is counted in seconds, as
the nearest number with 53 significant bits. -/
def InWindow (now : Moment) (hours : Int) (clock : Moment) : Prop :=
  ((now.seconds : Int) : Rat) ≤ clock.timestamp ∧ clock.timestamp < ((now.seconds + 3600 * hours : Int) : Rat)

instance (now : Moment) (hours : Int) (clock : Moment) : Decidable (InWindow now hours clock) :=
  inferInstanceAs (Decidable (_ ∧ _))

variable {now : Moment} {hours : Int}

theorem inCalendar_iff {t : Int} : inCalendar t = true ↔ Moment.firstMicros ≤ t ∧ t < Moment.endMicros := by
  rw [← Moment.exists_ofEpoch?_iff, inCalendar, Option.isSome_iff_exists]

/-- The time of expiry in whole seconds is a number of hours after the time of issue in whole seconds. -/
theorem expiry_fdiv (now : Moment) (hours : Int) :
    (now.sinceEpoch + hours * microsPerHour).fdiv microsPerSecond = now.seconds + 3600 * hours := by
  unfold Moment.seconds microsPerHour microsPerSecond
  rw [Int.fdiv_eq_ediv_of_nonneg _ (by decide), Int.fdiv_eq_ediv_of_nonneg _ (by decide)]
  omega

theorem lifetime_eq_some_iff {issuedAt expiresAt : Int} : lifetime now hours = some (issuedAt, expiresAt)
    ↔ Issuable now hours ∧ issuedAt = now.seconds ∧ expiresAt = now.seconds + 3600 * hours := by
  unfold lifetime
  simp only [expiry_fdiv]
  split
  · next hall =>
      rw [Option.some.injEq, Prod.mk.injEq]
      constructor
      · rintro ⟨rfl, rfl⟩
        exact ⟨⟨hall.2.2, hall.2.1, hall.1⟩, rfl, rfl⟩
      · rintro ⟨-, rfl, rfl⟩
        exact ⟨rfl, rfl⟩
  · next hnot =>
      constructor
      · intro h
        cases h
      · rintro ⟨hissuable, -⟩
        exact absurd ⟨hissuable.face, hissuable.expiry, hissuable.issue⟩ hnot

/-- A token is issued when it is issuable and there is a usable key. -/
theorem issue_eq_ok_iff {hash key token : String} : issue hash key hours now = .ok token
    ↔ Issuable now hours ∧ SigningKey.isUsable key = true
      ∧ token = sign key (claims now.seconds (now.seconds + 3600 * hours) hash) := by
  unfold issue
  cases hlifetime : lifetime now hours with
  | none =>
      constructor
      · intro h
        cases h
      · rintro ⟨hissuable, -⟩
        rw [lifetime_eq_some_iff.2 ⟨hissuable, rfl, rfl⟩] at hlifetime
        cases hlifetime
  | some times =>
      obtain ⟨hissuable, hissuedAt, hexpiresAt⟩ := lifetime_eq_some_iff.1 hlifetime
      simp only [hissuedAt, hexpiresAt]
      by_cases hkey : SigningKey.isUsable key = true
      · rw [if_pos hkey, Except.ok.injEq, eq_comm]
        exact ⟨fun h => ⟨hissuable, hkey, h⟩, fun h => h.2.2⟩
      · rw [if_neg hkey]
        exact ⟨fun h => (by cases h), fun h => absurd h.2.1 hkey⟩

theorem exists_issue {key : String} (hissuable : Issuable now hours) (hkey : SigningKey.isUsable key = true)
    (hash : String) : ∃ token, issue hash key hours now = .ok token :=
  ⟨_, issue_eq_ok_iff.2 ⟨hissuable, hkey, rfl⟩⟩

/-- A token that is issued by a clock is issued at its time in UTC. -/
theorem issueNow_eq_ok_iff {hash key token : String} {clock : Moment} :
    issueNow hash key hours clock = .ok token
      ↔ ∃ utc, clock.inUtc? = some utc ∧ issue hash key hours utc = .ok token := by
  unfold issueNow
  cases clock.inUtc? with
  | none => simp
  | some utc => simp

/-- The window of a token depends on the time of issue alone, and not on the clock that shows it. -/
theorem inWindow_inUtc? {utc : Moment} (hutc : now.inUtc? = some utc) (hours : Int) :
    InWindow utc hours = InWindow now hours := by
  funext clock
  rw [InWindow, InWindow, Moment.seconds, (Moment.sinceEpoch_of_ofEpoch? hutc).1, Moment.seconds]

/-- For a clock whose time is compared exactly, the window is the one of its time. -/
theorem inWindow_iff {clock : Moment} (hexact : clock.ComparesExactly) (hclock : clock.inUtc? ≠ none) :
    InWindow now hours clock ↔ now.seconds * microsPerSecond ≤ clock.sinceEpoch
      ∧ clock.sinceEpoch < (now.seconds + 3600 * hours) * microsPerSecond := by
  unfold InWindow
  rw [← not_le, ← not_le, Moment.intCast_le_timestamp_iff hexact hclock,
    Moment.intCast_le_timestamp_iff hexact hclock]

/-- The seconds of the calendar are written with few digits. -/
theorem length_decimal_of_inCalendar {t : Int} (ht : inCalendar t = true) :
    limits.admitsDigits (Text.decimal (t.fdiv microsPerSecond).natAbs).length = true := by
  obtain ⟨hlow, hhigh⟩ := inCalendar_iff.1 ht
  rw [Int.fdiv_eq_ediv_of_nonneg _ (by decide)]
  have hshort : (Text.decimal (t / microsPerSecond).natAbs).length ≤ 12 := by
    rw [Text.length_decimal_le_iff (by decide)]
    unfold Moment.firstMicros Moment.endMicros microsPerSecond at *
    omega
  show decide (_ ≤ 4300) = true
  rw [decide_eq_true_eq]
  omega

/-! ## Segments -/

/-- A segment is read back. -/
theorem openSegment_segmentOf {fields : List (String × Json)} (hplain : Json.ArePlain limits fields)
    (hne : fields ≠ []) :
    openSegment Base64Url.decode (segmentOf (.ofFields fields)) = some (.ofFields fields) := by
  rw [openSegment, segmentOf, Base64Url.decode_encode]
  show (Json.parseBytes limits _).toOption = _
  rw [Json.parseBytes_write hplain hne (by decide)]
  rfl

theorem openSegment_header : openSegment Base64Url.decode (segmentOf header) = some header := by
  apply openSegment_segmentOf ?_ (by simp)
  simp only [Json.arePlain_cons]
  refine ⟨?_, .text ?_, ?_, .text ?_, by simp [Json.ArePlain]⟩ <;> simp [Json.IsPlainChar]

/-- What is signed of a token. -/
def signedText (claims : Json) : List Char :=
  segmentOf header ++ '.' :: segmentOf claims

/-- A token is cut at its first dot and at its last one. -/
theorem segments?_eq_some_iff {token head body tail : List Char} : segments? token = some (head, body, tail)
    ↔ token = head ++ '.' :: (body ++ '.' :: tail) ∧ '.' ∉ head ∧ '.' ∉ tail := by
  unfold segments?
  simp only [Option.bind_eq_bind, Option.bind_eq_some_iff, Prod.exists]
  constructor
  · rintro ⟨signed, tail', hlast, head', body', hfirst, hall⟩
    cases hall
    obtain ⟨rfl, htail⟩ := Text.cutLast?_eq_some_iff.1 hlast
    obtain ⟨rfl, hhead⟩ := Text.cutFirst?_eq_some_iff.1 hfirst
    exact ⟨by simp, hhead, htail⟩
  · rintro ⟨rfl, hhead, htail⟩
    exact ⟨head ++ '.' :: body, tail, Text.cutLast?_eq_some_iff.2 ⟨by simp, htail⟩, head, body,
      Text.cutFirst?_eq_some_iff.2 ⟨rfl, hhead⟩, rfl⟩

/-- A signed token is taken apart into what was put together. -/
theorem dissect_sign (key : String) (claims : Json) :
    dissect Base64Url.decode (sign key claims).toList = some (header, Text.utf8 (claims.write .dense),
      signedText claims, signature key (signedText claims)) := by
  have hdot : ∀ bytes, '.' ∉ Base64Url.encode bytes := by
    intro bytes hin
    exact absurd (Base64Url.mem_alphabet_of_mem_encode hin) (by decide)
  have hsegments : segments? (sign key claims).toList
      = some (segmentOf header, segmentOf claims, Base64Url.encode (signature key (signedText claims))) := by
    refine segments?_eq_some_iff.2 ⟨?_, hdot _, hdot _⟩
    rw [sign, String.toList_ofList]
    simp only [List.append_assoc, List.cons_append]
    rfl
  unfold dissect
  simp only [hsegments, Option.bind_eq_bind, Option.bind_some, openSegment_header]
  simp only [segmentOf, Base64Url.decode_encode]
  rfl

/-! ## Checks -/

/-- The claims of a token that can be issued are read back. -/
theorem parseBytes_claims (hissuable : Issuable now hours) {hash : String}
    (hhash : ∀ c ∈ hash.toList, Json.IsPlainChar c) :
    Json.parseBytes limits (Text.utf8 ((claims now.seconds (now.seconds + 3600 * hours) hash).write .dense))
      = .ok (claims now.seconds (now.seconds + 3600 * hours) hash) := by
  have hexpiry := length_decimal_of_inCalendar hissuable.expiry
  rw [expiry_fdiv] at hexpiry
  apply Json.parseBytes_write ?_ (by simp) (by decide)
  simp only [Json.arePlain_cons]
  refine ⟨?_, .integer (length_decimal_of_inCalendar hissuable.issue), ?_, .integer hexpiry, ?_, .text hhash,
    by simp [Json.ArePlain]⟩ <;> simp [Json.IsPlainChar]

/-- The claims of an issued token are valid in its window. -/
theorem claimsOk_claims {clock : Moment} (hash : String) :
    claimsOk clock.timestamp (claims now.seconds (now.seconds + 3600 * hours) hash) = true
      ↔ InWindow now hours clock := by
  have hok : claimsOk clock.timestamp (claims now.seconds (now.seconds + 3600 * hours) hash)
      = (notAfter clock.timestamp (.integer now.seconds) && true
        && after clock.timestamp (.integer (now.seconds + 3600 * hours)) && true && true && true) := rfl
  rw [hok]
  simp only [notAfter, after, timeOf, Bool.and_true, Bool.and_eq_true, decide_eq_true_eq]
  rfl

theorem checkClaims_claims {clock : Moment} (hash other : String) :
    checkClaims (claims now.seconds (now.seconds + 3600 * hours) hash) other clock.timestamp
      = if InWindow now hours clock then if other = hash then .ok () else .error .otherPassword
        else .error .unacceptable := by
  have hnamed : ((claims now.seconds (now.seconds + 3600 * hours) hash).field? "pass_hash").bind Json.text?
      = some hash := rfl
  have hsame : some hash = some other ↔ other = hash := by
    rw [Option.some.injEq, eq_comm]
  unfold checkClaims
  simp only [claimsOk_claims, hnamed, hsame, ite_not]

/-- An issued token is accepted in its window, for the password that it was issued for. -/
theorem check_issue {hash key token : String} (hissue : issue hash key hours now = .ok token)
    (hhash : ∀ c ∈ hash.toList, Json.IsPlainChar c) {clock : Moment} (hclock : clock.inUtc? ≠ none)
    (other : String) :
    check token other key clock
      = if InWindow now hours clock then if other = hash then .ok () else .error .otherPassword
        else .error .unacceptable := by
  obtain ⟨hissuable, hkey, rfl⟩ := issue_eq_ok_iff.1 hissue
  have hheader : headerOk header = true ∧ (header.field? "alg").bind Json.text? = some "HS256" :=
    ⟨by decide, rfl⟩
  have hobject : isObject (claims now.seconds (now.seconds + 3600 * hours) hash) = true := rfl
  have hclaims : signedClaims Base64Url.decode (sign key (claims now.seconds (now.seconds + 3600 * hours) hash)) key
      = .ok (claims now.seconds (now.seconds + 3600 * hours) hash) := by
    unfold signedClaims
    simp only [dissect_sign, hheader.1, hheader.2, hkey, parseBytes_claims hissuable hhash, hobject,
      not_true_eq_false, ne_eq, or_self, if_false, if_true]
  unfold check
  rw [hclaims, ← checkClaims_claims]
  exact if_neg hclock

/-! ## Texts -/

/-- An issued token is made of the letters of base64url and of dots. -/
theorem mem_alphabet_of_issue {hash key token : String} (hissue : issue hash key hours now = .ok token) :
    ∀ c ∈ token.toList, c ∈ '.' :: Base64Url.alphabet := by
  obtain ⟨-, -, rfl⟩ := issue_eq_ok_iff.1 hissue
  intro c hc
  rw [sign, String.toList_ofList] at hc
  simp only [List.mem_append, List.mem_cons] at hc
  rcases hc with (hc | rfl | hc) | rfl | hc
  · exact List.mem_cons_of_mem _ (Base64Url.mem_alphabet_of_mem_encode hc)
  · exact List.mem_cons_self
  · exact List.mem_cons_of_mem _ (Base64Url.mem_alphabet_of_mem_encode hc)
  · exact List.mem_cons_self
  · exact List.mem_cons_of_mem _ (Base64Url.mem_alphabet_of_mem_encode hc)

theorem ne_empty_of_issue {hash key token : String} (hissue : issue hash key hours now = .ok token) :
    token ≠ "" := by
  obtain ⟨-, -, rfl⟩ := issue_eq_ok_iff.1 hissue
  intro hempty
  have hlist := congrArg String.toList hempty
  rw [sign, String.toList_ofList] at hlist
  exact absurd hlist (by simp)

end Token
end Agenda
