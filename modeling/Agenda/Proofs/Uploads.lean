import Agenda.Proofs.Text.Numerals
import Agenda.Server.Request
/-!
# Counted and announced bodies

How far the messages of a body are read when they are counted, and that a body whose length is announced is
judged in the same way.

* `Upload.arriving` — the message at a place of a stream; after the listed ones come disconnects for ever.
* `Upload.haltAt?` — whether a body is read no further after the message at a place, and why.
* `Upload.collect_halts` — a body is read up to the first such message, and no further.
* `MessageStream.readMany_assembled` — what an application reads of a body that was counted.
* `Chunks` — messages that make up a body; `Upload.collect_of_chunks` — how they are cut makes no difference.
* `Upload.screen_of_chunks` — a body whose length is not announced is judged by its bytes.
* `Upload.screen_announced` — a body whose length is announced is judged by this length.
-/

namespace Agenda

/-! ## Streams -/

namespace Message

@[simp] theorem bytes_piece (body : Bytes) (more : Bool) : (piece body more).bytes = body := rfl

@[simp] theorem more_piece (body : Bytes) (more : Bool) : (piece body more).more = some more := rfl

/-- A piece of a body is no disconnect. -/
theorem kind_piece_ne (body : Bytes) (more : Bool) : (piece body more).kind ≠ disconnect.kind :=
  show "http.request" ≠ "http.disconnect" by decide

end Message

namespace Upload

/-- The message at a place of a stream: after the listed messages come disconnects for ever. -/
def arriving (messages : List Message) (n : Nat) : Message :=
  messages.getD n Message.disconnect

/-- The bytes of the messages up to a place, with the one at that place. -/
def bytesThrough (messages : List Message) (n : Nat) : Bytes :=
  (messages.take (n + 1)).flatMap Message.bytes

theorem arriving_append_cons (before rest : List Message) (m : Message) :
    arriving (before ++ m :: rest) before.length = m := by
  simp [arriving]

theorem bytesThrough_append_cons (before rest : List Message) (m : Message) :
    bytesThrough (before ++ m :: rest) before.length = before.flatMap Message.bytes ++ m.bytes := by
  have hbefore : before.take (before.length + 1) = before := List.take_of_length_le (by omega)
  simp [bytesThrough, List.take_append, hbefore]

theorem drop_append_cons (before rest : List Message) (m : Message) :
    (before ++ m :: rest).drop (before.length + 1) = rest := by
  simp [List.drop_append]

end Upload

namespace MessageStream

/-- An application that reads message after message gets those that have not been taken, in their order, and then
disconnects. -/
theorem readMany_untaken (messages : List Message) (n count : Nat) :
    (readMany count ⟨none, messages.drop n⟩).1
      = (List.range count).map fun i => Upload.arriving messages (n + i) := by
  induction count generalizing n with
  | zero => rfl
  | succ count ih =>
      have hread : read ⟨none, messages.drop n⟩ = (Upload.arriving messages n, ⟨none, messages.drop (n + 1)⟩) := by
        by_cases hn : n < messages.length
        · rw [List.drop_eq_getElem_cons hn]
          simp [read, Upload.arriving, hn]
        · have hdrop : messages.drop n = [] := List.drop_eq_nil_of_le (by omega)
          have hdropNext : messages.drop (n + 1) = [] := List.drop_eq_nil_of_le (by omega)
          rw [hdrop, hdropNext]
          simp [read, Upload.arriving, hn]
      simp only [readMany, hread, ih, List.range_succ_eq_map, List.map_cons, List.map_map]
      simp [Function.comp_def, Nat.add_right_comm, Nat.add_assoc]

/-- An application gets the message that was put together for it at first, and then the messages that have not
been taken. -/
theorem readMany_assembled (m : Message) (messages : List Message) (n count : Nat) :
    (readMany (count + 1) ⟨some m, messages.drop n⟩).1
      = m :: (List.range count).map fun i => Upload.arriving messages (n + i) := by
  rw [← readMany_untaken]
  rfl

end MessageStream

/-! ## Counted bodies -/

namespace Upload

/-- Why a body is read no further. -/
inductive Halt
  /-- The client has gone. -/
  | clientGone
  /-- There are more bytes than the limit allows. -/
  | overLimit
  /-- No more is to come. -/
  | bodyComplete
deriving DecidableEq

/-- Whether a body is read no further after the message at a place, and why.  A disconnect comes before the count of
the bytes, and that before the end of the body. -/
def haltAt? (limit : Int) (messages : List Message) (n : Nat) : Option Halt :=
  if (arriving messages n).kind = Message.disconnect.kind then some .clientGone
  else if limit < (bytesThrough messages n).length then some .overLimit
  else if (arriving messages n).more = some true then none
  else some .bodyComplete

/-- The message at a place is the first one after which a body is read no further. -/
structure HaltsFirst (limit : Int) (messages : List Message) (n : Nat) (halt : Halt) : Prop where
  halts : haltAt? limit messages n = some halt
  first : ∀ k < n, haltAt? limit messages k = none

/-- The verdict on a body that is read up to a place, and no further: the messages after it are not taken, and the
bytes of those that are taken are put together. -/
def verdictAt (messages : List Message) (n : Nat) : Halt → UploadVerdict
  | .clientGone => .abandoned (messages.drop (n + 1))
  | .overLimit => .tooLarge (messages.drop (n + 1))
  | .bodyComplete =>
      .admitted ⟨some (Message.piece (bytesThrough messages n) false), messages.drop (n + 1)⟩

/-- Of a stream, some messages have been taken, and none of them was the last one to be read.  Then the body is read
up to the first message that is, wherever in the stream that stands. -/
theorem collect_halts_of_taken (limit : Int) {before messages : List Message}
    (hbefore : ∀ k < before.length, haltAt? limit (before ++ messages) k = none) :
    ∃ n halt, HaltsFirst limit (before ++ messages) n halt
      ∧ collect limit (before.flatMap Message.bytes) messages = verdictAt (before ++ messages) n halt := by
  induction messages generalizing before with
  | nil =>
      refine ⟨before.length, .clientGone, ⟨?_, hbefore⟩, ?_⟩
      · simp [haltAt?, arriving]
      · simp [collect, verdictAt]
  | cons m rest ih =>
      have hhalt : haltAt? limit (before ++ m :: rest) before.length
          = if m.kind = Message.disconnect.kind then some .clientGone
            else if limit < (before.flatMap Message.bytes ++ m.bytes).length then some .overLimit
            else if m.more = some true then none
            else some .bodyComplete := by
        rw [haltAt?, arriving_append_cons, bytesThrough_append_cons]
      by_cases hgone : m.kind = Message.disconnect.kind
      · rw [if_pos hgone] at hhalt
        refine ⟨before.length, .clientGone, ⟨hhalt, hbefore⟩, ?_⟩
        rw [verdictAt, drop_append_cons, collect, if_pos hgone]
      by_cases hover : limit < (before.flatMap Message.bytes ++ m.bytes).length
      · rw [if_neg hgone, if_pos hover] at hhalt
        refine ⟨before.length, .overLimit, ⟨hhalt, hbefore⟩, ?_⟩
        simp only [verdictAt, drop_append_cons, collect, if_neg hgone, if_pos hover]
      by_cases hmore : m.more = some true
      · -- The message is taken, and reading goes on.
        rw [if_neg hgone, if_neg hover, if_pos hmore] at hhalt
        have htaken : ∀ k < (before ++ [m]).length, haltAt? limit ((before ++ [m]) ++ rest) k = none := by
          intro k hk
          rw [List.length_append, List.length_singleton] at hk
          rw [List.append_assoc, List.singleton_append]
          rcases Nat.lt_succ_iff_lt_or_eq.1 hk with hearlier | rfl
          · exact hbefore k hearlier
          · exact hhalt
        obtain ⟨n, halt, hfirst, hverdict⟩ := ih htaken
        rw [List.append_assoc, List.singleton_append] at hfirst hverdict
        refine ⟨n, halt, hfirst, ?_⟩
        rw [← hverdict, List.flatMap_append, List.flatMap_singleton]
        simp only [collect, if_neg hgone, if_neg hover, if_pos hmore]
      · rw [if_neg hgone, if_neg hover, if_neg hmore] at hhalt
        refine ⟨before.length, .bodyComplete, ⟨hhalt, hbefore⟩, ?_⟩
        simp only [verdictAt, drop_append_cons, bytesThrough_append_cons, collect, if_neg hgone, if_neg hover,
          if_neg hmore]

/-- A body that is counted is read up to the first message after which it is read no further. -/
theorem collect_halts (limit : Int) (messages : List Message) :
    ∃ n halt, HaltsFirst limit messages n halt ∧ collect limit [] messages = verdictAt messages n halt := by
  have hnone : ∀ k < ([] : List Message).length, haltAt? limit ([] ++ messages) k = none := by
    intro k hk
    exact absurd hk (Nat.not_lt_zero k)
  exact collect_halts_of_taken limit hnone

end Upload

/-! ## Bodies in pieces -/

/-- The messages make up a body: each but the last one announces more, the last one does not, and there is no
disconnect among them. -/
inductive Chunks : Bytes → List Message → Prop
  | last {m : Message} (hpresent : m.kind ≠ Message.disconnect.kind) (hmore : m.more ≠ some true) :
      Chunks m.bytes [m]
  | more {m : Message} {body : Bytes} {rest : List Message} (hpresent : m.kind ≠ Message.disconnect.kind)
      (hmore : m.more = some true) (hrest : Chunks body rest) : Chunks (m.bytes ++ body) (m :: rest)

namespace Chunks

/-- A body in one piece. -/
theorem piece (body : Bytes) : Chunks body [Message.piece body false] := by
  have hlast := last (Message.kind_piece_ne body false) (by simp)
  rwa [Message.bytes_piece] at hlast

/-- Pieces, each of which but the last one announces more, make up the body that they are pieces of. -/
theorem messagesOf (pieces : List Bytes) : Chunks pieces.flatten (Payload.messagesOf pieces) := by
  induction pieces with
  | nil => exact piece []
  | cons first rest ih =>
      cases rest with
      | nil => simpa [Payload.messagesOf] using piece first
      | cons second others => exact more (Message.kind_piece_ne first true) (by simp) ih

end Chunks

namespace MessageStream

/-- An application that reads message after message, until no more is to come, gets this body. -/
def Reads (s : MessageStream) (body : Bytes) : Prop :=
  ∃ count, Chunks body (s.readMany count).1

theorem reads_assembled (body : Bytes) (rest : List Message) :
    Reads ⟨some (Message.piece body false), rest⟩ body :=
  ⟨1, Chunks.piece body⟩

/-- A stream from which nothing has been taken is read with the body that its messages make up. -/
theorem reads_untaken {body : Bytes} {pieces : List Message} (h : Chunks body pieces) (rest : List Message) :
    Reads ⟨none, pieces ++ rest⟩ body := by
  refine ⟨pieces.length, ?_⟩
  have hread := readMany_untaken (pieces ++ rest) 0 pieces.length
  have hall : (List.range pieces.length).map (fun i => Upload.arriving (pieces ++ rest) (0 + i)) = pieces := by
    apply List.ext_getElem
    · simp
    · intro i hi hpieces
      simp [Upload.arriving, List.getElem?_append_left hpieces, hpieces]
  rw [List.drop_zero, hall] at hread
  rwa [hread]

end MessageStream

namespace Upload

/-- How a body is cut into messages makes no difference: it is too large, or it is handed on in one piece, with the
messages that come after it. -/
theorem collect_of_chunks {body : Bytes} {pieces : List Message} (h : Chunks body pieces) (limit : Int)
    (taken : Bytes) (rest : List Message) :
    (limit < (taken ++ body).length → ∃ untaken, collect limit taken (pieces ++ rest) = .tooLarge untaken)
      ∧ ((taken ++ body).length ≤ limit → collect limit taken (pieces ++ rest)
        = .admitted ⟨some (Message.piece (taken ++ body) false), rest⟩) := by
  induction h generalizing taken with
  | @last m hpresent hmore =>
      simp only [List.singleton_append, collect, if_neg hpresent, if_neg hmore]
      constructor
      · intro hover
        exact ⟨rest, by rw [if_pos hover]⟩
      · intro hfits
        rw [if_neg (by omega)]
  | @more m body pieces hpresent hmore hrest ih =>
      have hall := ih (taken ++ m.bytes)
      rw [List.append_assoc] at hall
      simp only [List.cons_append, collect, if_neg hpresent, if_pos hmore]
      constructor
      · intro hover
        by_cases hearly : limit < (taken ++ m.bytes).length
        · exact ⟨pieces ++ rest, by rw [if_pos hearly]⟩
        · rw [if_neg hearly]
          exact hall.1 hover
      · intro hfits
        -- A part of the body is not larger than the body.
        have hearly : ¬ limit < (taken ++ m.bytes).length := by
          simp only [List.length_append] at hfits ⊢
          omega
        rw [if_neg hearly]
        exact hall.2 hfits

/-! ## Announced lengths -/

variable {headers after : List (String × String)}

theorem announced?_eq_none (hbare : ∀ header ∈ headers, header.1 ≠ lengthHeader) : announced? headers = none := by
  have hnone : headers.reverse.find? (fun header => header.1 == lengthHeader) = none := by
    rw [List.find?_eq_none]
    intro header hin
    simpa using hbare header (List.mem_reverse.1 hin)
  rw [announced?, hnone]
  rfl

theorem announced?_append_cons {before : List (String × String)}
    (hafter : ∀ header ∈ after, header.1 ≠ lengthHeader) (text : String) :
    announced? (before ++ (lengthHeader, text) :: after) = some text := by
  have hnone : after.reverse.find? (fun header => header.1 == lengthHeader) = none := by
    rw [List.find?_eq_none]
    intro header hin
    simpa using hafter header (List.mem_reverse.1 hin)
  simp [announced?, List.find?_append, hnone]

/-- Digits, with or without zeros in front, announce the number that they denote. -/
theorem lengthOf_padded (width n : Nat) :
    isLength (Text.padded width n) = true ∧ lengthOf (Text.padded width n) = n := by
  obtain ⟨ds, hds, hvalue⟩ := Text.digits_padded width n
  have hne : Text.padded width n ≠ [] := by
    intro hempty
    have hlength : (Text.padded width n).length = max width (Text.decimal n).length := by
      rw [Text.padded, List.length_leftpad]
    have hpos : 0 < (Text.decimal n).length := List.length_pos_iff.2 Nat.toDigits_ne_nil
    rw [hempty, List.length_nil] at hlength
    omega
  constructor
  · rw [isLength, hds.isAsciiDigit_all]
    simpa using hne
  · rw [lengthOf, hds.filterMap_eq, hvalue]

/-- The messages of a request that does not announce the length of its body are counted. -/
theorem screen_counted (limit : Int) (messages : List Message) (hbare : ∀ header ∈ headers, header.1 ≠ lengthHeader) :
    screen limit "http" headers messages = .ok (collect limit [] messages) := by
  unfold screen
  rw [if_neg (by simp), announced?_eq_none hbare]

/-- A body whose length is not announced is judged by its bytes, however it is cut into messages. -/
theorem screen_of_chunks {body : Bytes} {pieces : List Message} (hpieces : Chunks body pieces) (limit : Int)
    (rest : List Message) (hbare : ∀ header ∈ headers, header.1 ≠ lengthHeader) :
    (limit < body.length → ∃ untaken, screen limit "http" headers (pieces ++ rest) = .ok (.tooLarge untaken))
      ∧ (body.length ≤ limit → screen limit "http" headers (pieces ++ rest)
        = .ok (.admitted ⟨some (Message.piece body false), rest⟩)) := by
  have hcollect := collect_of_chunks hpieces limit [] rest
  rw [List.nil_append] at hcollect
  rw [screen_counted limit (pieces ++ rest) hbare]
  constructor
  · intro hover
    obtain ⟨untaken, hverdict⟩ := hcollect.1 hover
    exact ⟨untaken, by rw [hverdict]⟩
  · intro hfits
    rw [hcollect.2 hfits]

/-- A request that announces the length of its body is judged by this length, and none of its messages is taken. -/
theorem screen_announced (limit : Int) (messages : List Message) (before : List (String × String))
    (hafter : ∀ header ∈ after, header.1 ≠ lengthHeader) {width n : Nat}
    (hshort : (Text.padded width n).length ≤ maxLengthDigits) :
    screen limit "http" (before ++ (lengthHeader, String.ofList (Text.padded width n)) :: after) messages
      = .ok (if limit < n then .tooLarge messages else .admitted ⟨none, messages⟩) := by
  obtain ⟨hlength, hvalue⟩ := lengthOf_padded width n
  unfold screen
  rw [if_neg (by simp), announced?_append_cons hafter]
  simp only [String.toList_ofList]
  rw [if_pos hlength, if_neg (by omega), hvalue]
  split <;> rfl

end Upload
end Agenda
