import Agenda.Calendar.Moment
import Agenda.Digest.Hmac
import Agenda.Json.Writer
import Agenda.SigningKey
import Agenda.Text.Base64Url
import Agenda.Text.Integer
import Agenda.Text.Parts
/-!
# Sign-in tokens

A token is a JSON web token: three segments separated by dots, which are a header, the claims, and a
signature of the first two under the secret key, each in base64url. The claims name the time of issue, the
time from which the token is no longer accepted, and the digest of the password it was issued for.

* `Token.issue` — the token for a password digest at a moment; `Token.issueNow` reads it off a clock.
* `Token.check` — whether a token is accepted at a moment for a password digest; `Token.checkAt` — the same
  at a number of seconds, for any way to decode a segment.
* `TokenIssueError`, `TokenRejection` — why not.

Writing and reading tokens is the part of PyJWT, and what it documents for the algorithm HS256 is taken over.
`encode` writes the header and the claims without spaces, in the order in which they are given, and numbers
in whole seconds. `decode` cuts the token at its last dot and what stands before that at the first one. It
wants an object as the header, with this algorithm, a string as `kid` and nothing critical that is unknown;
then a key that may be used, the right signature, and an object as the claims. Of the claims it looks at
`iat`, `nbf`, `exp`, `aud`, `sub` and `jti` in this order, each only if it is there, and leaves no leeway. A
segment has one spelling in base64url, to which its padding may be added.
-/

namespace Agenda

inductive TokenIssueError
  /-- The time of issue or of expiry lies outside the calendar. -/
  | outsideCalendar
  /-- The secret is no text that tokens can be signed with. -/
  | unusableKey
deriving DecidableEq

inductive TokenRejection
  /-- The token is malformed, not signed with the key, or not valid at the time. -/
  | unacceptable
  | otherPassword
  /-- The secret is no text that tokens can be signed with. -/
  | unusableKey
  /-- The time of the check lies outside the calendar in UTC. -/
  | outsideCalendar
deriving DecidableEq

namespace Token

def header : Json :=
  Json.ofFields [("alg", .ofText "HS256"), ("typ", .ofText "JWT")]

def claims (issuedAt expiresAt : Int) (passwordHash : String) : Json :=
  Json.ofFields
    [("iat", .integer issuedAt), ("exp", .integer expiresAt), ("pass_hash", .ofText passwordHash)]

def segmentOf (value : Json) : List Char :=
  Base64Url.encode (Text.utf8 (value.write JsonStyle.dense))

def signature (key : String) (signed : List Char) : Bytes :=
  hmacSha256 (Text.utf8 key) (Text.utf8Chars signed)

/-- The token with the given claims, signed with a key. -/
def sign (key : String) (claims : Json) : String :=
  let signed := segmentOf header ++ '.' :: segmentOf claims
  String.ofList (signed ++ '.' :: Base64Url.encode (signature key signed))

def microsPerHour : Int := 3600 * microsPerSecond

def inCalendar (t : Int) : Bool :=
  (Moment.ofEpoch? t).isSome

/-- The times of issue and expiry, in whole seconds since 1970, of a token issued at a moment. Both must
lie in the calendar in UTC, and the time of expiry also on the clock that showed the moment. -/
def lifetime (now : Moment) (hours : Int) : Option (Int × Int) :=
  let expiry := now.sinceEpoch + hours * microsPerHour
  if inCalendar (now.faceMicros + hours * microsPerHour) ∧ inCalendar expiry
      ∧ inCalendar now.sinceEpoch then
    some (now.seconds, expiry.fdiv microsPerSecond)
  else none

/-- The token for a password digest, issued at a moment for a number of hours. -/
def issue (passwordHash key : String) (hours : Int) (now : Moment) :
    Except TokenIssueError String :=
  match lifetime now hours with
  | none => .error .outsideCalendar
  | some (issuedAt, expiresAt) =>
      if SigningKey.isUsable key then .ok (sign key (claims issuedAt expiresAt passwordHash))
      else .error .unusableKey

/-- The token for a password digest, issued at the time of a clock, which is read in UTC. -/
def issueNow (passwordHash key : String) (hours : Int) (clock : Moment) :
    Except TokenIssueError String :=
  match clock.inUtc? with
  | some now => issue passwordHash key hours now
  | none => .error .outsideCalendar

/-- The integer that a time claim denotes: an integer, a number without its fraction, a truth value as
zero or one, or an integer text. -/
def timeOf : Json → Option Int
  | .integer n => some n
  | .decimal negative significand exponent =>
      (Binary64.ofDecimal? significand exponent).map fun q => truncate (if negative then -q else q)
  | .bool b => some (if b then 1 else 0)
  | .string (.text s) => Text.readInteger s.toList
  | _ => none

/-- Whether a value is empty, zero, false or null. -/
def isVoid : Json → Bool
  | .null => true
  | .bool b => !b
  | .integer n => n == 0
  | .decimal _ significand exponent => Binary64.ofDecimal? significand exponent == some 0
  | .string s => s == .text ""
  | .array items => items.isEmpty
  | .object fields => fields.isEmpty
  | _ => false

def isString : Json → Bool
  | .string _ => true
  | _ => false

/-- Whether a claim is missing or satisfies a test. -/
def absentOr (test : Json → Bool) (name : String) (value : Json) : Bool :=
  match value.field? name with
  | none => true
  | some v => test v

def knownExtensions : List String := ["b64"]

/-- Whether the list of extensions that a header calls critical is a non-empty list of known ones that
the header has. -/
def criticalOk (header : Json) : Json → Bool
  | .array items =>
      !items.isEmpty && items.all fun item =>
        match item.text? with
        | some name => knownExtensions.contains name && (header.field? name).isSome
        | none => false
  | _ => false

/-- Whether a header is one that can be checked, its algorithm aside: the key name is a string, the
critical extensions are known, and the claims are encoded. -/
def headerOk (header : Json) : Bool :=
  absentOr isString "kid" header && absentOr (criticalOk header) "crit" header
    && absentOr (fun v => match v with | .bool b => b | _ => true) "b64" header

def isObject : Json → Bool
  | .object _ => true
  | _ => false

def notAfter (now : Rat) (value : Json) : Bool :=
  match timeOf value with
  | some n => decide ((n : Rat) ≤ now)
  | none => false

def after (now : Rat) (value : Json) : Bool :=
  match timeOf value with
  | some n => decide (now < (n : Rat))
  | none => false

/-- Whether the claims are valid at a time in seconds: issued and begun, not yet expired, meant for no
particular audience, and with strings as subject and name. -/
def claimsOk (now : Rat) (claims : Json) : Bool :=
  absentOr (notAfter now) "iat" claims && absentOr (notAfter now) "nbf" claims
    && absentOr (after now) "exp" claims && absentOr isVoid "aud" claims
    && absentOr isString "sub" claims && absentOr isString "jti" claims

/-- How far the segments of a token are read. The depth is what a limit of 1000 nested calls leaves where they
are read. -/
def limits : JsonLimits := { depth := 987 }

/-- The segments of a token: it is cut at the last dot, and what stands before it at the first one. -/
def segments? (token : List Char) : Option (List Char × List Char × List Char) := do
  let (signed, tail) ← Text.cutLast? '.' token
  let (head, body) ← Text.cutFirst? '.' signed
  pure (head, body, tail)

section

variable (decode : List Char → Option Bytes)

def openSegment (segment : List Char) : Option Json := do
  let bytes ← decode segment
  (Json.parseBytes limits bytes).toOption

/-- The header and the signature of a token with the text that is signed, if its three segments can be
decoded and the header is an object. -/
def dissect (token : List Char) : Option (Json × Bytes × List Char × Bytes) := do
  let (head, body, tail) ← segments? token
  let header ← openSegment decode head
  let payload ← decode body
  let mark ← decode tail
  if isObject header then pure (header, payload, head ++ '.' :: body, mark) else none

/-- The claims of a token that is signed with a key. First the token must be well formed and use the expected
algorithm, then the key must be usable and the signature right, and at last the claims must be an object. -/
def signedClaims (token key : String) : Except TokenRejection Json :=
  match dissect decode token.toList with
  | none => .error .unacceptable
  | some (header, payload, signed, mark) =>
      if ¬ headerOk header ∨ (header.field? "alg").bind Json.text? ≠ some "HS256" then
        .error .unacceptable
      else if ¬ SigningKey.isUsable key then .error .unusableKey
      else if signature key signed ≠ mark then .error .unacceptable
      else
        match Json.parseBytes limits payload with
        | .error _ => .error .unacceptable
        | .ok claims => if isObject claims then .ok claims else .error .unacceptable

end

/-- Check claims at a time in seconds since 1970: first that they are valid, then the password digest. -/
def checkClaims (claims : Json) (passwordHash : String) (time : Rat) : Except TokenRejection Unit :=
  if ¬ claimsOk time claims then .error .unacceptable
  else if (claims.field? "pass_hash").bind Json.text? = some passwordHash then .ok ()
  else .error .otherPassword

/-- Check a token with a decoder of segments at a time in seconds since 1970. -/
def checkAt (decode : List Char → Option Bytes) (token passwordHash key : String) (time : Rat) :
    Except TokenRejection Unit := do
  let claims ← signedClaims decode token key
  checkClaims claims passwordHash time

/-- Check a token at the time of a clock. The clock is read when the token is rightly signed. -/
def check (token passwordHash key : String) (now : Moment) : Except TokenRejection Unit := do
  let claims ← signedClaims Base64Url.decode token key
  if now.inUtc? = none then .error .outsideCalendar
  else checkClaims claims passwordHash now.timestamp

end Token

namespace TokenRejection

def message : TokenRejection → String
  | unacceptable => "failed to parse token"
  | otherPassword => "invalid password hash"
  | unusableKey => "the secret is no signing key"
  | outsideCalendar => "the time lies outside the calendar"

end TokenRejection

end Agenda
