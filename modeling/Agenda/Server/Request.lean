import Agenda.Json.Value
import Agenda.Server.Cookie
import Agenda.Throttle
import Agenda.Upload
/-!
# Requests and responses

What the server is asked and what it answers.

* `Request` — a request; `Payload` says how its body is sent.
* `Request.headers`, `Request.messages` — what the body limit looks at.
* `Request.parameter`, `Request.token?`, `Request.source` — what the endpoints look at.
* `Response` — a status with a JSON value or a plain text.
-/

namespace Agenda

/-- How the body of a request is sent. -/
inductive Payload
  | absent
  /-- The body is sent in one piece, and its length is announced. -/
  | announced (content : Bytes)
  /-- The body is sent in pieces, without its length. -/
  | chunked (pieces : List Bytes)
deriving DecidableEq

namespace Payload

/-- The messages of pieces; each but the last announces more. -/
def messagesOf : List Bytes → List Message
  | [] => [Message.piece [] false]
  | [last] => [Message.piece last false]
  | first :: rest => Message.piece first true :: messagesOf rest

end Payload

structure Request where
  method : String
  path : String
  /-- The decoded parameters after the path. -/
  query : List (String × String) := []
  payload : Payload := .absent
  contentType : Option String := none
  cookies : Option String := none
  /-- The address of the client, if it is known. -/
  client : Option String := some "127.0.0.1"
deriving DecidableEq

namespace Request

/-- The headers that tell the length of the body. -/
def headers (r : Request) : List (String × String) :=
  match r.payload with
  | .announced content => [(Upload.lengthHeader, String.ofList (Text.decimal content.length))]
  | _ => []

def messages (r : Request) : List Message :=
  match r.payload with
  | .absent => Payload.messagesOf []
  | .announced content => Payload.messagesOf [content]
  | .chunked pieces => Payload.messagesOf pieces

/-- The value of a query parameter, which is empty when it is not given; of several the last one
counts. -/
def parameter (r : Request) (name : String) : String :=
  ((r.query.reverse.find? fun entry => entry.1 == name).map Prod.snd).getD ""

def tokenCookie : String := "token"

def token? (r : Request) : Option String :=
  r.cookies.bind (Cookie.find? tokenCookie)

def clientName (r : Request) : String :=
  match r.client with
  | none => "127.0.0.1"
  | some "" => "127.0.0.1"
  | some address => address

/-- The source under which an attempt is counted: the client at the path as it is written. -/
def source (r : Request) : AttemptSource :=
  ⟨r.clientName, r.path⟩

/-- Whether the body is declared as JSON: of type `application`, with the subtype `json` or one that
ends in `+json`. -/
def isJson (r : Request) : Bool :=
  match r.contentType with
  | none => false
  | some text =>
      let kind := (Text.dropAround Cookie.isHeaderBlank (text.toList.takeWhile (· != ';'))).map
        Char.toLower
      match Text.parts '/' kind with
      | [main, sub] =>
          main == "application".toList
            && (sub == "json".toList || "+json".toList.isSuffixOf sub)
      | _ => false

end Request

inductive ResponseBody
  | json (value : Json)
  | text (content : String)

structure Response where
  status : Nat
  body : ResponseBody

namespace Response

def json (status : Nat) (value : Json) : Response := ⟨status, .json value⟩

def text (status : Nat) (content : String) : Response := ⟨status, .text content⟩

def error (status : Nat) (message : String) : Response :=
  json status (Json.ofFields [("error", .ofText message)])

/-- A response that tells why a request did not reach an endpoint. -/
def detail (status : Nat) (message : String) : Response :=
  json status (Json.ofFields [("detail", .ofText message)])

/-- The response of an endpoint that has nothing to tell. -/
def done : Response := json 200 (Json.ofFields [])

def badBody : Response := error 400 "JSON deserialization failed"

def bodyTooLarge : Response := error 413 "request body too large"

def tooManyAttempts (rate : AttemptRate) : Response :=
  error 429 ("Rate limit exceeded: " ++ rate.wording)

def internal : Response := error 500 "internal server error"

def misconfigured : Response := error 500 "server configuration error"

end Response

end Agenda
