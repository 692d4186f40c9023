import Agenda.Text.Digit
import Agenda.Text.Utf8
/-!
# Body limit

The check of a request's body size before the application sees the request. A request that announces
the length of its body is judged by the announcement, and none of its messages is read. The messages of
any other request are collected and counted; a request within the limit is handed on with its whole
body in one message.

* `Message` — a message of the stream on which a body arrives.
* `MessageStream` — what the application reads; after its messages come disconnects for ever.
* `Upload.screen` — the verdict on a request.
-/

namespace Agenda

/-- A message of a body stream. Its body and its mark of more to come may be left out. -/
structure Message where
  kind : String
  body : Option Bytes := none
  more : Option Bool := none
  /-- Other fields, by their names. They are handed on with the message and looked at by no one here. -/
  others : List (String × String) := []
deriving DecidableEq

namespace Message

/-- The message that follows when a stream has ended. -/
def disconnect : Message := { kind := "http.disconnect" }

def piece (body : Bytes) (more : Bool) : Message :=
  { kind := "http.request", body := some body, more := some more }

def bytes (m : Message) : Bytes := m.body.getD []

end Message

/-- The messages that an application reads: at first one that was put together for it, if there is one,
then those that have not been taken, then disconnects for ever. -/
structure MessageStream where
  assembled : Option Message
  untaken : List Message
deriving DecidableEq

namespace MessageStream

def read (s : MessageStream) : Message × MessageStream :=
  match s.assembled, s.untaken with
  | some m, rest => (m, ⟨none, rest⟩)
  | none, m :: rest => (m, ⟨none, rest⟩)
  | none, [] => (Message.disconnect, ⟨none, []⟩)

def readMany : (count : Nat) → MessageStream → List Message × MessageStream
  | 0, s => ([], s)
  | count + 1, s =>
      let (m, s') := s.read
      let (rest, s'') := readMany count s'
      (m :: rest, s'')

/-- The body that is read from a list of messages: up to the first one after which no more is to
come. -/
def bodyOf : List Message → Bytes
  | [] => []
  | m :: rest => if m.more = some true then m.bytes ++ bodyOf rest else m.bytes

def body (s : MessageStream) : Bytes :=
  bodyOf (s.assembled.toList ++ s.untaken)

end MessageStream

inductive UploadVerdict
  /-- It is answered as too large; these messages are not taken. -/
  | tooLarge (untaken : List Message)
  /-- The client has gone, and nothing is answered. -/
  | abandoned (untaken : List Message)
  /-- The application is called with this stream. -/
  | admitted (stream : MessageStream)
deriving DecidableEq

/-- An announced length has too many digits to be read. -/
structure LengthTooLong where
deriving DecidableEq

namespace Upload

def lengthHeader : String := "content-length"

def maxLengthDigits : Nat := 4300

/-- The announced length, as it is written; of several the last one counts. -/
def announced? (headers : List (String × String)) : Option String :=
  (headers.reverse.find? fun header => header.1 == lengthHeader).map Prod.snd

/-- Whether an announcement is a number, written in ASCII digits alone. -/
def isLength (text : List Char) : Bool :=
  !text.isEmpty && text.all Text.isAsciiDigit

def lengthOf (text : List Char) : Nat :=
  Text.ofDigits (text.filterMap Text.asciiDigit?)

/-- Collect the messages of a body and count its bytes. -/
def collect (limit : Int) (taken : Bytes) : List Message → UploadVerdict
  | [] => .abandoned []
  | m :: rest =>
      if m.kind = Message.disconnect.kind then .abandoned rest
      else
        let taken' := taken ++ m.bytes
        if limit < taken'.length then .tooLarge rest
        else if m.more = some true then collect limit taken' rest
        else .admitted ⟨some (Message.piece taken' false), rest⟩

/-- The verdict on a request with the given headers and messages. Only requests of the protocol `http`
are judged, and an announcement that is no number lets a request pass. -/
def screen (limit : Int) (protocol : String) (headers : List (String × String))
    (messages : List Message) : Except LengthTooLong UploadVerdict :=
  if protocol ≠ "http" then .ok (.admitted ⟨none, messages⟩)
  else
    match announced? headers with
    | none => .ok (collect limit [] messages)
    | some text =>
        if isLength text.toList then
          if maxLengthDigits < text.toList.length then .error ⟨⟩
          else if limit < lengthOf text.toList then .ok (.tooLarge messages)
          else .ok (.admitted ⟨none, messages⟩)
        else .ok (.admitted ⟨none, messages⟩)

end Upload
end Agenda
