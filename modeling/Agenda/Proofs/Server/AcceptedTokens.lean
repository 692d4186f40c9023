import Agenda.Proofs.Server.Gate
/-!
# What an accepted token says

Whatever text is given as a token, it is accepted only if it was signed with the key, is valid at the time, and names
the digest of the password that it is accepted for.  This holds for every decoder of segments and for every number of
seconds that the times of the token are compared with.  With a decoder that reads the alphabet of base64url and its
padding only, an accepted token has three segments and no more dots than stand between them.

* `Token.SignedAs` — the parts of a token that is signed with a key; `Token.SignedWith` — a token is signed with a key
  and makes certain claims.
* `Token.Begun`, `Token.Unexpired` — claims are valid at a time.
* `Token.exists_signedAs_iff` — a signed token as it is taken apart; `Token.checkAt_eq_ok_iff` — the tokens that are
  accepted.
* `Token.accepted_genuine` — what an accepted token says, and that it is accepted for one password digest only.
-/

namespace Agenda
namespace Token

/-- The parts of a token that is signed with a key.  It is cut at its first dot and at its last one; what stands before
is a JSON object that names the algorithm, what stands between is a JSON object, too, and what stands behind is the
signature of the first two parts with the dot between them, as they are written. -/
structure SignedAs (decode : List Char → Option Bytes) (token key : String) (head body tail : List Char)
    (header claims : Json) : Prop where
  written : token.toList = head ++ '.' :: (body ++ '.' :: tail)
  ends : '.' ∉ head ∧ '.' ∉ tail
  opened : openSegment decode head = some header
  headerObject : ∃ fields, header = .object fields
  algorithm : header.field? "alg" = some (.ofText "HS256")
  mark : decode tail = some (hmacSha256 (Text.utf8 key) (Text.utf8Chars (head ++ '.' :: body)))
  claimed : openSegment decode body = some claims
  claimsObject : ∃ fields, claims = .object fields

/-- The token is signed with a key and makes these claims. -/
def SignedWith (decode : List Char → Option Bytes) (token key : String) (claims : Json) : Prop :=
  ∃ head body tail header, SignedAs decode token key head body tail header claims

/-- The times of issue and of beginning, as far as they are claimed, have been reached at a time in seconds. -/
structure Begun (claims : Json) (time : Rat) : Prop where
  issued : ∀ value, claims.field? "iat" = some value → ∃ n : Int, timeOf value = some n ∧ n ≤ time
  begun : ∀ value, claims.field? "nbf" = some value → ∃ n : Int, timeOf value = some n ∧ n ≤ time

/-- The time of expiry, as far as it is claimed, has not been reached at a time in seconds. -/
def Unexpired (claims : Json) (time : Rat) : Prop :=
  ∀ value, claims.field? "exp" = some value → ∃ n : Int, timeOf value = some n ∧ time < n

/-! ## Values -/

theorem isObject_iff {value : Json} : isObject value = true ↔ ∃ fields, value = .object fields := by
  cases value <;> simp [isObject]

/-- A field is a text exactly when it is there and has this text as its value. -/
theorem text?_field?_eq_some_iff {value : Json} {name s : String} :
    (value.field? name).bind Json.text? = some s ↔ value.field? name = some (.ofText s) := by
  rw [Option.bind_eq_some_iff]
  constructor
  · intro h
    obtain ⟨v, hv, htext⟩ := h
    rw [hv]
    cases v with
    | string own =>
        cases own with
        | text s' =>
            rw [Json.text?, Option.some.injEq] at htext
            rw [htext]
            rfl
        | unpaired points => cases htext
    | _ => cases htext
  · intro h
    exact ⟨_, h, rfl⟩

theorem absentOr_eq_true_iff {test : Json → Bool} {name : String} {value : Json} :
    absentOr test name value = true ↔ ∀ v, value.field? name = some v → test v = true := by
  unfold absentOr
  cases value.field? name with
  | none => simp
  | some v => simp

theorem notAfter_eq_true_iff {now : Rat} {value : Json} :
    notAfter now value = true ↔ ∃ n, timeOf value = some n ∧ (n : Rat) ≤ now := by
  unfold notAfter
  cases timeOf value with
  | none => simp
  | some n => simp

theorem after_eq_true_iff {now : Rat} {value : Json} :
    after now value = true ↔ ∃ n, timeOf value = some n ∧ now < (n : Rat) := by
  unfold after
  cases timeOf value with
  | none => simp
  | some n => simp

/-- Claims that pass the check are valid at its time. -/
theorem valid_of_claimsOk {claims : Json} {time : Rat} (hclaims : claimsOk time claims = true) :
    Begun claims time ∧ Unexpired claims time := by
  simp only [claimsOk, Bool.and_eq_true, absentOr_eq_true_iff] at hclaims
  obtain ⟨⟨⟨⟨⟨hissued, hbegun⟩, hexpiry⟩, -⟩, -⟩, -⟩ := hclaims
  refine ⟨⟨?_, ?_⟩, ?_⟩
  · exact fun value hvalue => notAfter_eq_true_iff.1 (hissued value hvalue)
  · exact fun value hvalue => notAfter_eq_true_iff.1 (hbegun value hvalue)
  · exact fun value hvalue => after_eq_true_iff.1 (hexpiry value hvalue)

section Clocks

variable {claims : Json} {now : Moment}

/-- What has begun by the seconds of a clock has begun by the clock itself, if its time is compared exactly. -/
theorem Begun.exact (h : Begun claims now.timestamp) (hutc : now.inUtc? ≠ none) (hexact : now.ComparesExactly) :
    Begun claims ((now.sinceEpoch : Rat) / microsPerSecond) := by
  have hreached : ∀ n : Int, (n : Rat) ≤ now.timestamp → (n : Rat) ≤ (now.sinceEpoch : Rat) / microsPerSecond := by
    intro n hn
    rw [le_div_iff₀ Moment.microsPerSecond_pos]
    exact_mod_cast (Moment.intCast_le_timestamp_iff hexact hutc n).1 hn
  constructor
  · intro value hvalue
    obtain ⟨n, htime, hle⟩ := h.issued value hvalue
    exact ⟨n, htime, hreached n hle⟩
  · intro value hvalue
    obtain ⟨n, htime, hle⟩ := h.begun value hvalue
    exact ⟨n, htime, hreached n hle⟩

/-- What has not expired by the seconds of a clock has not expired by the clock itself. -/
theorem Unexpired.exact (h : Unexpired claims now.timestamp) (hutc : now.inUtc? ≠ none) :
    Unexpired claims ((now.sinceEpoch : Rat) / microsPerSecond) := by
  intro value hvalue
  obtain ⟨n, htime, hlt⟩ := h value hvalue
  refine ⟨n, htime, ?_⟩
  rw [div_lt_iff₀ Moment.microsPerSecond_pos]
  exact_mod_cast Moment.sinceEpoch_lt_of_timestamp_lt hutc hlt

end Clocks

/-! ## Accepted tokens -/

section

variable {decode : List Char → Option Bytes} {token key hash : String}

theorem openSegment_eq_some_iff {segment : List Char} {value : Json} : openSegment decode segment = some value
    ↔ ∃ bytes, decode segment = some bytes ∧ Json.parseBytes limits bytes = .ok value := by
  unfold openSegment
  cases decode segment with
  | none => simp
  | some bytes =>
      cases hparse : Json.parseBytes limits bytes <;> simp [hparse, Except.toOption]

theorem dissect_eq_some_iff {token signed : List Char} {header : Json} {payload mark : Bytes} :
    dissect decode token = some (header, payload, signed, mark)
      ↔ ∃ head body tail, segments? token = some (head, body, tail) ∧ openSegment decode head = some header
        ∧ isObject header = true ∧ decode body = some payload ∧ signed = head ++ '.' :: body
        ∧ decode tail = some mark := by
  unfold dissect
  simp only [Option.bind_eq_bind, Option.bind_eq_some_iff, Option.ite_none_right_eq_some, Prod.exists]
  constructor
  · rintro ⟨head, body, tail, hsegments, value, hheader, bytes, hbody, bytes', htail, hobject, hall⟩
    cases hall
    exact ⟨head, body, tail, hsegments, hheader, hobject, hbody, rfl, htail⟩
  · rintro ⟨head, body, tail, hsegments, hheader, hobject, hbody, rfl, htail⟩
    exact ⟨head, body, tail, hsegments, header, hheader, payload, hbody, mark, htail, hobject, rfl⟩

theorem checkClaims_eq_ok_iff {claims : Json} {time : Rat} : checkClaims claims hash time = .ok ()
    ↔ claimsOk time claims = true ∧ claims.field? "pass_hash" = some (.ofText hash) := by
  unfold checkClaims
  rw [guard_eq_ok_iff, not_not, ← text?_field?_eq_some_iff]
  by_cases hhash : (claims.field? "pass_hash").bind Json.text? = some hash
  · simp [hhash]
  · simp [hhash]

/-- A token is signed with a key when it comes apart into a header that names the algorithm, claims, and the mark that
the key gives. -/
theorem exists_signedAs_iff {header claims : Json} :
    (∃ head body tail, SignedAs decode token key head body tail header claims)
      ↔ ∃ payload signed mark, dissect decode token.toList = some (header, payload, signed, mark)
        ∧ signature key signed = mark ∧ header.field? "alg" = some (.ofText "HS256")
        ∧ Json.parseBytes limits payload = .ok claims ∧ isObject claims = true := by
  constructor
  · rintro ⟨head, body, tail, hsigned⟩
    obtain ⟨payload, hbody, hclaims⟩ := openSegment_eq_some_iff.1 hsigned.claimed
    refine ⟨payload, head ++ '.' :: body, _, ?_, rfl, hsigned.algorithm, hclaims,
      isObject_iff.2 hsigned.claimsObject⟩
    exact dissect_eq_some_iff.2 ⟨head, body, tail, segments?_eq_some_iff.2 ⟨hsigned.written, hsigned.ends⟩,
      hsigned.opened, isObject_iff.2 hsigned.headerObject, hbody, rfl, hsigned.mark⟩
  · rintro ⟨payload, signed, mark, hdissect, rfl, halgorithm, hclaims, hobject⟩
    obtain ⟨head, body, tail, hsegments, hopened, hheader, hbody, rfl, htail⟩ := dissect_eq_some_iff.1 hdissect
    obtain ⟨hwritten, hends⟩ := segments?_eq_some_iff.1 hsegments
    exact ⟨head, body, tail,
      { written := hwritten
        ends := hends
        opened := hopened
        headerObject := isObject_iff.1 hheader
        algorithm := halgorithm
        mark := htail
        claimed := openSegment_eq_some_iff.2 ⟨payload, hbody, hclaims⟩
        claimsObject := isObject_iff.1 hobject }⟩

/-- The claims that are taken from a token, and when they are. -/
theorem signedClaims_eq_ok_iff {claims : Json} :
    signedClaims decode token key = .ok claims
      ↔ ∃ header, (∃ head body tail, SignedAs decode token key head body tail header claims)
        ∧ headerOk header = true ∧ SigningKey.isUsable key = true := by
  unfold signedClaims
  constructor
  · intro h
    cases hdissect : dissect decode token.toList with
    | none =>
        rw [hdissect] at h
        cases h
    | some parts =>
        obtain ⟨header, payload, signed, mark⟩ := parts
        simp only [hdissect, guard_eq_ok_iff, not_or, not_not, text?_field?_eq_some_iff] at h
        obtain ⟨⟨hheader, halgorithm⟩, hkey, hmark, h⟩ := h
        cases hclaims : Json.parseBytes limits payload with
        | error cause =>
            rw [hclaims] at h
            cases h
        | ok value =>
            simp only [hclaims] at h
            split at h
            · next hobject =>
                obtain rfl := Except.ok.inj h
                exact ⟨header, exists_signedAs_iff.2
                  ⟨payload, signed, mark, hdissect, hmark, halgorithm, hclaims, hobject⟩, hheader, hkey⟩
            · cases h
  · rintro ⟨header, hsigned, hheader, hkey⟩
    obtain ⟨payload, signed, mark, hdissect, hmark, halgorithm, hclaims, hobject⟩ :=
      exists_signedAs_iff.1 hsigned
    simp only [hdissect, guard_eq_ok_iff, not_or, not_not, text?_field?_eq_some_iff, hclaims, if_pos hobject]
    exact ⟨⟨hheader, halgorithm⟩, hkey, hmark, trivial⟩

/-- The tokens that are accepted at a time, for the digest of a password. -/
theorem checkAt_eq_ok_iff {time : Rat} :
    checkAt decode token hash key time = .ok ()
      ↔ ∃ header claims, (∃ head body tail, SignedAs decode token key head body tail header claims)
        ∧ headerOk header = true ∧ SigningKey.isUsable key = true
        ∧ claimsOk time claims = true ∧ claims.field? "pass_hash" = some (.ofText hash) := by
  unfold checkAt
  rw [bind_eq_ok_iff]
  constructor
  · rintro ⟨claims, hclaims, h⟩
    obtain ⟨header, hsigned, hheader, hkey⟩ := signedClaims_eq_ok_iff.1 hclaims
    exact ⟨header, claims, hsigned, hheader, hkey, checkClaims_eq_ok_iff.1 h⟩
  · rintro ⟨header, claims, hsigned, hheader, hkey, h⟩
    exact ⟨claims, signedClaims_eq_ok_iff.2 ⟨header, hsigned, hheader, hkey⟩,
      checkClaims_eq_ok_iff.2 h⟩

/-- A clock checks a token at its number of seconds, as long as it shows a time of the calendar. -/
theorem check_eq_ok_iff {now : Moment} : check token hash key now = .ok ()
    ↔ now.inUtc? ≠ none ∧ checkAt Base64Url.decode token hash key now.timestamp = .ok () := by
  unfold check checkAt
  simp only [bind_eq_ok_iff, guard_eq_ok_iff]
  constructor
  · rintro ⟨claims, hclaims, hutc, h⟩
    exact ⟨hutc, claims, hclaims, h⟩
  · rintro ⟨hutc, claims, hclaims, h⟩
    exact ⟨claims, hclaims, hutc, h⟩

/-- What an accepted token says. -/
theorem genuine_of_checkAt {time : Rat} (h : checkAt decode token hash key time = .ok ()) :
    ∃ claims, SignedWith decode token key claims ∧ claims.field? "pass_hash" = some (.ofText hash)
      ∧ Begun claims time ∧ Unexpired claims time := by
  obtain ⟨header, claims, ⟨head, body, tail, hsigned⟩, -, -, hclaims, hhash⟩ := checkAt_eq_ok_iff.1 h
  exact ⟨claims, ⟨head, body, tail, header, hsigned⟩, hhash, valid_of_claimsOk hclaims⟩

/-- The cuts leave further dots to the second segment only, and with one it is not read. -/
theorem SignedWith.count_dots {claims : Json} (h : SignedWith decode token key claims)
    (hdecode : Base64Url.ReadsAlphabet decode) : token.toList.count '.' = 2 := by
  obtain ⟨head, body, tail, header, hsigned⟩ := h
  obtain ⟨hhead, htail⟩ := hsigned.ends
  have hbody : '.' ∉ body := by
    intro hdot
    obtain ⟨payload, hpayload, -⟩ := openSegment_eq_some_iff.1 hsigned.claimed
    exact absurd (hdecode body payload hpayload '.' hdot) (by decide)
  rw [hsigned.written, List.count_append, List.count_cons_self, List.count_append, List.count_cons_self,
    List.count_eq_zero.2 hhead, List.count_eq_zero.2 hbody, List.count_eq_zero.2 htail]

/-- A token makes the same claims under all keys. -/
theorem SignedWith.unique {key' : String} {claims claims' : Json} (h : SignedWith decode token key claims)
    (h' : SignedWith decode token key' claims') : claims = claims' := by
  obtain ⟨head, body, tail, header, hsigned⟩ := h
  obtain ⟨head', body', tail', header', hsigned'⟩ := h'
  have hcut := segments?_eq_some_iff.2 ⟨hsigned.written, hsigned.ends⟩
  rw [segments?_eq_some_iff.2 ⟨hsigned'.written, hsigned'.ends⟩] at hcut
  cases hcut
  exact Option.some.inj (hsigned.claimed.symm.trans hsigned'.claimed)

/-- A token is accepted for one password digest at most, whenever it is checked and with whichever key. -/
theorem hash_eq_of_checkAt {hash' key' : String} {time time' : Rat}
    (h : checkAt decode token hash key time = .ok ()) (h' : checkAt decode token hash' key' time' = .ok ()) :
    hash = hash' := by
  obtain ⟨claims, hsigned, hhash, -⟩ := genuine_of_checkAt h
  obtain ⟨claims', hsigned', hhash', -⟩ := genuine_of_checkAt h'
  obtain rfl := hsigned.unique hsigned'
  rw [hhash] at hhash'
  cases hhash'
  rfl

/-- What an accepted token says: it is signed with the key, its claims name the digest of the password, and they are
valid at the time.  It has two dots, unless the decoder reads what is no base64url, and it is accepted for one digest
only.

A clock, whose seconds are rounded, accepts no token that is expired, and none before its time of issue as long as it
compares times exactly; and no request with the same token is admitted once the digest of the password is another
one. -/
theorem accepted_genuine (decode : List Char → Option Bytes) (token key : String) :
    (∀ hash time, checkAt decode token hash key time = .ok () →
        ∃ claims, SignedWith decode token key claims ∧ claims.field? "pass_hash" = some (.ofText hash)
          ∧ Begun claims time ∧ Unexpired claims time
          ∧ (Base64Url.ReadsAlphabet decode → token.toList.count '.' = 2))
      ∧ (∀ key' hash hash' time time', checkAt decode token hash key time = .ok () →
        checkAt decode token hash' key' time' = .ok () → hash = hash')
      ∧ (∀ hash now, check token hash key now = .ok () →
        ∃ claims, SignedWith Base64Url.decode token key claims ∧ claims.field? "pass_hash" = some (.ofText hash)
          ∧ Begun claims now.timestamp ∧ Unexpired claims ((now.sinceEpoch : Rat) / microsPerSecond)
          ∧ (now.ComparesExactly → Begun claims ((now.sinceEpoch : Rat) / microsPerSecond))
          ∧ token.toList.count '.' = 2)
      ∧ ∀ (r : Request) settings settings' now now', settings'.passwordHash ≠ settings.passwordHash →
        r.Admitted settings now → ¬ r.Admitted settings' now' := by
  refine ⟨?_, ?_, ?_, ?_⟩
  · intro hash time h
    obtain ⟨claims, hsigned, hhash, hbegun, hexpiry⟩ := genuine_of_checkAt h
    exact ⟨claims, hsigned, hhash, hbegun, hexpiry, hsigned.count_dots⟩
  · intro key' hash hash' time time' h h'
    exact hash_eq_of_checkAt h h'
  · intro hash now h
    obtain ⟨hutc, haccepted⟩ := check_eq_ok_iff.1 h
    obtain ⟨claims, hsigned, hhash, hbegun, hexpiry⟩ := genuine_of_checkAt haccepted
    exact ⟨claims, hsigned, hhash, hbegun, hexpiry.exact hutc, fun hexact => hbegun.exact hutc hexact,
      hsigned.count_dots Base64Url.readsAlphabet_decode⟩
  · intro r settings settings' now now' hchanged hadmitted hadmitted'
    obtain ⟨carried, hcarried, -, -, h⟩ := hadmitted
    obtain ⟨carried', hcarried', -, -, h'⟩ := hadmitted'
    obtain rfl := Option.some.inj (hcarried.symm.trans hcarried')
    exact hchanged (hash_eq_of_checkAt (check_eq_ok_iff.1 h').2 (check_eq_ok_iff.1 h).2)

end

/-- A token that is issued and carried by a request, before and after the password is changed. -/
theorem accepted_genuine_changedPassword :
    let now := Moment.midnight ⟨2024, 1, 26, by decide⟩
    let later := Moment.midnight ⟨2024, 1, 27, by decide⟩
    let settings : Settings := { password := "gate", secretKey := "key" }
    let changed : Settings := { password := "door", secretKey := "key" }
    ∃ token, check token settings.passwordHash "key" now = .ok ()
      ∧ (∃ claims, SignedWith Base64Url.decode token "key" claims
        ∧ claims.field? "pass_hash" = some (.ofText settings.passwordHash)
        ∧ Begun claims now.timestamp ∧ Unexpired claims now.timestamp)
      ∧ token.toList.count '.' = 2
      ∧ checkAt Base64Url.decode token changed.passwordHash "key" later.timestamp ≠ .ok ()
      ∧ ∀ r : Request, r.token? = some token → r.Admitted settings now ∧ ¬ r.Admitted changed later := by
  intro now later settings changed
  have hissuable : Issuable now 48 := ⟨by decide +kernel, by decide +kernel, by decide +kernel⟩
  obtain ⟨token, hissue⟩ :=
    exists_issue hissuable (by decide +kernel : SigningKey.isUsable "key" = true) settings.passwordHash
  have hin : InWindow now 48 now :=
    (inWindow_iff (by decide +kernel) (by decide +kernel)).2 (by decide +kernel)
  have hutc : now.inUtc? ≠ none := by
    decide +kernel
  have hcheck := check_issue hissue Settings.isPlainChar_of_mem_hashPassword hutc settings.passwordHash
  rw [if_pos hin, if_pos rfl] at hcheck
  have haccepted := (check_eq_ok_iff.1 hcheck).2
  have hchanged : changed.passwordHash ≠ settings.passwordHash := by
    decide +kernel
  obtain ⟨hgenuine, hone, -, hadmitted⟩ := accepted_genuine Base64Url.decode token "key"
  obtain ⟨claims, hsigned, hhash, hbegun, hexpiry, hdots⟩ := hgenuine _ _ haccepted
  refine ⟨token, hcheck, ⟨claims, hsigned, hhash, hbegun, hexpiry⟩, hdots Base64Url.readsAlphabet_decode, ?_, ?_⟩
  · intro h
    exact hchanged (hone _ _ _ _ _ h haccepted)
  · intro r htoken
    have hbefore : r.Admitted settings now :=
      (Request.admitted_iff_inWindow hissue htoken hutc).2 hin
    exact ⟨hbefore, hadmitted r settings changed now later hchanged hbefore⟩

end Token
end Agenda
