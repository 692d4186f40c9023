import Agenda.Proofs.Server.Submissions
import Agenda.Proofs.Uploads
/-!
# Bodies before the server

What the limit on bodies does to a request, whether its body is counted or its length is announced.

* `Request.Passes` — the request is let pass by the limit; `Request.screen_cases` — it is when its body is not too long.
* `Server.respond_of_passes` — it comes to its endpoint with the whole of its body.
* `Server.respond_eq_withinLimit` — the answer to a request depends on the bytes of its body, however they are sent.
* `Upload.screen_halts` — which messages of a body are taken when it is counted, and what the application reads.
* `Upload.screen_agrees` — a body is judged and read alike whether its length is announced or not.
-/

namespace Agenda

namespace Request

/-- The request is let pass by the limit on bodies. -/
def Passes (limit : Int) (r : Request) : Prop :=
  ∃ stream, Upload.screen limit "http" r.headers r.messages = .ok (.admitted stream)

/-- If the length of the body is announced, it has no more digits than are read. -/
def HasReadableLength (r : Request) : Prop :=
  ∀ content, r.payload = .announced content → (Text.decimal content.length).length ≤ Upload.maxLengthDigits

theorem hasReadableLength_of_chunked {r : Request} {pieces : List Bytes} (hpayload : r.payload = .chunked pieces) :
    r.HasReadableLength := by
  intro content hcontent
  rw [hpayload] at hcontent
  cases hcontent

/-- The messages of a request make up its body. -/
theorem chunks_messages (r : Request) : Chunks r.content r.messages := by
  unfold content messages
  cases r.payload with
  | absent => exact Chunks.messagesOf []
  | announced content => simpa using Chunks.messagesOf [content]
  | chunked pieces => exact Chunks.messagesOf pieces

/-- A request is refused when its body has more bytes than the limit allows, and else it is let pass. -/
theorem screen_cases {r : Request} (hlength : r.HasReadableLength) (limit : Int) :
    (limit < r.content.length →
        ∃ untaken, Upload.screen limit "http" r.headers r.messages = .ok (.tooLarge untaken))
      ∧ (r.content.length ≤ limit → r.Passes limit) := by
  have hnone : ∀ header ∈ ([] : List (String × String)), header.1 ≠ Upload.lengthHeader := by
    simp
  by_cases hannounced : ∃ content, r.payload = .announced content
  · obtain ⟨content, hpayload⟩ := hannounced
    have hunpadded : Text.padded 0 content.length = Text.decimal content.length := by
      simp [Text.padded, List.leftpad]
    have hshort := hlength content hpayload
    rw [← hunpadded] at hshort
    have hcontent : r.content = content := by
      simp only [Request.content, hpayload]
    have hheaders : r.headers
        = [] ++ (Upload.lengthHeader, String.ofList (Text.padded 0 content.length)) :: [] := by
      simp only [headers, hpayload, hunpadded]
      rfl
    have hscreen := Upload.screen_announced limit r.messages [] hnone hshort
    rw [← hheaders, ← hcontent] at hscreen
    constructor
    · intro hover
      rw [if_pos hover] at hscreen
      exact ⟨_, hscreen⟩
    · intro hfits
      rw [if_neg (by omega)] at hscreen
      exact ⟨_, hscreen⟩
  · have hheaders : r.headers = [] := by
      unfold headers
      cases hpayload : r.payload with
      | absent => rfl
      | announced content => exact absurd ⟨content, hpayload⟩ hannounced
      | chunked pieces => rfl
    have hscreen := Upload.screen_of_chunks r.chunks_messages limit [] hnone
    rw [List.append_nil, ← hheaders] at hscreen
    exact ⟨hscreen.1, fun hfits => ⟨_, hscreen.2 hfits⟩⟩

/-- A request without a body passes under each limit that is not negative, also when it announces that its body is
empty. -/
theorem passes_of_content_eq_nil {r : Request} {limit : Int} (hcontent : r.content = []) (hlimit : 0 ≤ limit) :
    r.Passes limit := by
  have hlength : r.HasReadableLength := by
    intro announced hpayload
    obtain rfl : announced = [] := by
      rwa [content, hpayload] at hcontent
    decide
  apply (screen_cases hlength limit).2
  rw [hcontent]
  exact hlimit

end Request

namespace Server

variable (config : ServerConfig) (now : Moment) (s : ServerState) (r : Request)

/-- A request that is let pass is dispatched with the whole of its body. -/
theorem respond_of_passes {r : Request} (hpasses : r.Passes config.settings.maxUploadSize) :
    respond config now s r = dispatch config now r r.content s := by
  obtain ⟨stream, hscreen⟩ := hpasses
  rw [respond, hscreen, ← Upload.body_of_screen hscreen]

/-- The answer to a request with a body of these bytes: it is refused when there are too many of them, and else it is
dispatched with all of them. -/
def withinLimit (content : Bytes) : Response × ServerState :=
  if config.settings.maxUploadSize < content.length then (Response.error 413 "request body too large", s)
  else dispatch config now r content s

/-- A request is answered by the bytes of its body, however they are sent. -/
theorem respond_eq_withinLimit {r : Request} (hlength : r.HasReadableLength) :
    respond config now s r = withinLimit config now s r r.content := by
  obtain ⟨htooLarge, hpasses⟩ := Request.screen_cases hlength config.settings.maxUploadSize
  unfold withinLimit
  by_cases hover : config.settings.maxUploadSize < r.content.length
  · obtain ⟨untaken, hscreen⟩ := htooLarge hover
    rw [if_pos hover, respond, hscreen]
    rfl
  · rw [if_neg hover, respond_of_passes config now s (hpasses (by omega))]

/-- How a body was sent makes no difference once it has been read. -/
theorem withinLimit_payload (payload : Payload) (content : Bytes) :
    withinLimit config now s { r with payload := payload } content = withinLimit config now s r content := by
  have hserve : ∀ body e, serve config now { r with payload := payload } body s e = serve config now r body s e := by
    intro body e
    cases e <;> rfl
  have henter : ∀ e, enter config now { r with payload := payload } content s e
      = enter config now r content s e := by
    intro e
    simp only [enter, hserve]
    rfl
  simp only [withinLimit, dispatch, henter]

/-- A request whose body is sent in pieces is answered by the bytes of all pieces together. -/
theorem respond_chunked (pieces : List Bytes) :
    respond config now s { r with payload := .chunked pieces } = withinLimit config now s r pieces.flatten := by
  rw [respond_eq_withinLimit config now s (Request.hasReadableLength_of_chunked rfl)]
  exact withinLimit_payload config now s r (.chunked pieces) pieces.flatten

/-- A request that announces the length of its body is answered by its bytes in the same way. -/
theorem respond_announced {content : Bytes}
    (hshort : (Text.decimal content.length).length ≤ Upload.maxLengthDigits) :
    respond config now s { r with payload := .announced content } = withinLimit config now s r content := by
  have hlength : ({ r with payload := .announced content } : Request).HasReadableLength := by
    intro content' hcontent
    obtain rfl := Payload.announced.inj hcontent
    exact hshort
  rw [respond_eq_withinLimit config now s hlength]
  exact withinLimit_payload config now s r (.announced content) content

end Server

namespace Upload

/-! ## Counted bodies -/

/-- The messages of a body without an announced length are taken up to the first one that is a disconnect, brings the
bytes above the limit, or announces no more, and none is taken after it.  A disconnect leaves the request without an
answer, too many bytes refuse it, and otherwise the application reads the bytes in one message, and after that the
messages that have not been taken, each of them once.  So all that counts of a body is its bytes, and too many of them
are answered by the status 413. -/
theorem screen_halts {headers : List (String × String)} (hbare : ∀ header ∈ headers, header.1 ≠ lengthHeader)
    (limit : Int) :
    (∀ messages, ∃ n halt, HaltsFirst limit messages n halt
        ∧ screen limit "http" headers messages = .ok (verdictAt messages n halt)
        ∧ ∀ stream, verdictAt messages n halt = .admitted stream → ∀ count,
          (stream.readMany (count + 1)).1 = Message.piece (bytesThrough messages n) false
            :: (List.range count).map fun i => arriving messages (n + 1 + i))
      ∧ (∀ body pieces rest, Chunks body pieces →
        (limit < body.length → ∃ untaken, screen limit "http" headers (pieces ++ rest) = .ok (.tooLarge untaken))
        ∧ (body.length ≤ limit → screen limit "http" headers (pieces ++ rest)
          = .ok (.admitted ⟨some (Message.piece body false), rest⟩)))
      ∧ ∀ config now s r pieces, Server.respond config now s { r with payload := .chunked pieces }
        = Server.withinLimit config now s r pieces.flatten := by
  refine ⟨?_, ?_, Server.respond_chunked⟩
  · intro messages
    obtain ⟨n, halt, hfirst, hverdict⟩ := collect_halts limit messages
    refine ⟨n, halt, hfirst, ?_, ?_⟩
    · rw [screen_counted limit messages hbare, hverdict]
    · intro stream hstream count
      cases halt with
      | clientGone => cases hstream
      | overLimit => cases hstream
      | bodyComplete =>
          obtain rfl := UploadVerdict.admitted.inj hstream
          exact MessageStream.readMany_assembled _ messages (n + 1) count
  · intro body pieces rest hpieces
    exact screen_of_chunks hpieces limit rest hbare

/-- A body of three bytes in two messages, one of which says nothing of what follows, and a message after it. -/
theorem screen_halts_twoPieces :
    let last : Message := { kind := "http.request", body := some [3] }
    let pieces := [Message.piece [1, 2] true, last]
    let next := Message.piece [4] true
    let headers := [("Content-Length", "9"), ("host", "localhost")]
    (∃ n halt, HaltsFirst 3 (pieces ++ [next]) n halt
        ∧ screen 3 "http" headers (pieces ++ [next]) = .ok (verdictAt (pieces ++ [next]) n halt))
      ∧ (∃ untaken, screen 2 "http" headers (pieces ++ [next]) = .ok (.tooLarge untaken))
      ∧ screen 3 "http" headers (pieces ++ [next])
        = .ok (.admitted ⟨some (Message.piece [1, 2, 3] false), [next]⟩) := by
  intro last pieces next headers
  have hbare : ∀ header ∈ headers, header.1 ≠ lengthHeader := by
    decide
  have hpieces : Chunks [1, 2, 3] pieces :=
    Chunks.more (m := Message.piece [1, 2] true) (by decide) rfl (Chunks.last (m := last) (by decide) (by decide))
  obtain ⟨hhalts, hchunks, -⟩ := screen_halts hbare 3
  obtain ⟨n, halt, hfirst, hverdict, -⟩ := hhalts (pieces ++ [next])
  exact ⟨⟨n, halt, hfirst, hverdict⟩, ((screen_halts hbare 2).2.1 _ _ [next] hpieces).1 (by decide),
    (hchunks _ _ [next] hpieces).2 (by decide)⟩

/-! ## Announced bodies -/

/-- A body of these bytes, however it is cut into messages, is judged alike whether its length is announced or not, and
an application that reads it gets the same bytes.  When the length is announced and too large, no message is taken.  A
server gives the same answer and goes into the same state in both cases. -/
theorem screen_agrees {before after : List (String × String)} (hbefore : ∀ header ∈ before, header.1 ≠ lengthHeader)
    (hafter : ∀ header ∈ after, header.1 ≠ lengthHeader) {body : Bytes} {pieces : List Message}
    (hpieces : Chunks body pieces) {width : Nat}
    (hshort : (Text.padded width body.length).length ≤ maxLengthDigits) (limit : Int) (rest : List Message) :
    let announcing := before ++ (lengthHeader, String.ofList (Text.padded width body.length)) :: after
    (limit < body.length →
        screen limit "http" announcing (pieces ++ rest) = .ok (.tooLarge (pieces ++ rest))
        ∧ ∃ untaken, screen limit "http" (before ++ after) (pieces ++ rest) = .ok (.tooLarge untaken))
      ∧ (body.length ≤ limit → ∃ stream stream',
        screen limit "http" announcing (pieces ++ rest) = .ok (.admitted stream)
        ∧ screen limit "http" (before ++ after) (pieces ++ rest) = .ok (.admitted stream')
        ∧ stream.Reads body ∧ stream'.Reads body)
      ∧ ∀ config now s r cuts, cuts.flatten = body →
        Server.respond config now s { r with payload := .announced body } = Server.withinLimit config now s r body
        ∧ Server.respond config now s { r with payload := .chunked cuts } = Server.withinLimit config now s r body := by
  have hbare : ∀ header ∈ before ++ after, header.1 ≠ lengthHeader := by
    intro header hin
    rcases List.mem_append.1 hin with hin | hin
    · exact hbefore header hin
    · exact hafter header hin
  intro announcing
  have hannounced := screen_announced limit (pieces ++ rest) before hafter hshort
  obtain ⟨htooLarge, hadmitted⟩ := screen_of_chunks hpieces limit rest hbare
  refine ⟨?_, ?_, ?_⟩
  · intro hover
    rw [if_pos hover] at hannounced
    exact ⟨hannounced, htooLarge hover⟩
  · intro hfits
    rw [if_neg (by omega)] at hannounced
    exact ⟨_, _, hannounced, hadmitted hfits, MessageStream.reads_untaken hpieces rest,
      MessageStream.reads_assembled body rest⟩
  · intro config now s r cuts hcuts
    have hdecimal : (Text.decimal body.length).length ≤ maxLengthDigits := by
      rw [Text.padded, List.length_leftpad] at hshort
      omega
    constructor
    · exact Server.respond_announced config now s r hdecimal
    · rw [Server.respond_chunked, hcuts]

/-- Three bytes that are announced with zeros in front, under a limit that they keep and under one that they do not
keep. -/
theorem screen_agrees_zerosInFront :
    let pieces := [Message.piece [1, 2] true, Message.piece [] true, Message.piece [3] false]
    let announcing := [("host", "localhost"), ("content-length", "0003")]
    (screen (-1) "http" announcing pieces = .ok (.tooLarge pieces)
        ∧ ∃ untaken, screen (-1) "http" [("host", "localhost")] pieces = .ok (.tooLarge untaken))
      ∧ (∃ stream stream', screen 3 "http" announcing pieces = .ok (.admitted stream)
        ∧ screen 3 "http" [("host", "localhost")] pieces = .ok (.admitted stream')
        ∧ stream.Reads [1, 2, 3] ∧ stream'.Reads [1, 2, 3])
      ∧ ∀ config now s r, Server.respond config now s { r with payload := .announced [1, 2, 3] }
          = Server.withinLimit config now s r [1, 2, 3]
        ∧ Server.respond config now s { r with payload := .chunked [[1], [], [2, 3]] }
          = Server.withinLimit config now s r [1, 2, 3] := by
  intro pieces announcing
  have hbefore : ∀ header ∈ [("host", "localhost")], header.1 ≠ lengthHeader := by
    decide
  have hpieces : Chunks [1, 2, 3] pieces :=
    Chunks.more (m := Message.piece [1, 2] true) (by decide) rfl
      (Chunks.more (m := Message.piece [] true) (by decide) rfl (Chunks.piece [3]))
  have hafter : ∀ header ∈ ([] : List (String × String)), header.1 ≠ lengthHeader := by
    simp
  have hshort : (Text.padded 4 ([1, 2, 3] : Bytes).length).length ≤ maxLengthDigits := by
    decide
  have hagrees := screen_agrees hbefore hafter hpieces hshort
  have hover := (hagrees (-1) []).1 (by decide)
  have hfits := (hagrees 3 []).2.1 (by decide)
  exact ⟨hover, hfits, fun config now s r => (hagrees 3 []).2.2 config now s r [[1], [], [2, 3]] rfl⟩

end Upload
end Agenda
