import Agenda.Proofs.Entries
import Agenda.Server.Respond
/-!
# What a request submits

The endpoint that a request reaches and the entry that it submits, said of the request itself.

* `Request.Reaches` — the method and the path lead to an endpoint; `Routing.of_eq_found_iff` — the routing
  finds exactly this one.
* `Request.content` — the bytes of the body, however they are sent; `Upload.body_of_screen` — a request that
  is let pass is read with exactly these.
* `Request.Submits`, `Request.SubmitsFor` — the entry in the body, and the id that it is meant for.
* `EntryForm.eq_ofEntry_of_stored` — only a form of texts is accepted and stored.
-/

namespace Agenda

/-! ## Endpoints -/

/-- A request reaches an endpoint by one of its methods and at its path. -/
def Request.Reaches (r : Request) (e : Endpoint) : Prop :=
  r.method ∈ e.methods ∧ e.isAt r.path = true

namespace Endpoint

theorem mem_all (e : Endpoint) : e ∈ all := by
  cases e with
  | description page => cases page <;> simp [all]
  | _ => simp [all]

/-- A method and a path lead to one endpoint only. -/
theorem eq_of_reaches {e e' : Endpoint} {r : Request} (he : r.Reaches e) (he' : r.Reaches e') :
    e = e' := by
  -- Two endpoints that share a method have different paths, also with a line feed at the end.
  have hdistinct : ∀ a ∈ all, ∀ b ∈ all, a ≠ b → ∀ m ∈ a.methods, m ∈ b.methods →
      ∀ path ∈ [a.path, a.path ++ "\n"], path ∉ [b.path, b.path ++ "\n"] := by
    decide +kernel
  have hpath : ∀ {a : Endpoint}, a.isAt r.path = true → r.path ∈ [a.path, a.path ++ "\n"] := by
    intro a ha
    simpa [isAt] using ha
  by_contra hne
  exact hdistinct e (mem_all e) e' (mem_all e') hne r.method he.1 he'.1 r.path (hpath he.2) (hpath he'.2)

end Endpoint

/-- The routing finds the endpoint that a request reaches. -/
theorem Routing.of_eq_found_iff {r : Request} {e : Endpoint} :
    Routing.of r.method r.path = .found e ↔ r.Reaches e := by
  have hreaches : ∀ a : Endpoint, (a.isAt r.path && a.methods.contains r.method) = true ↔ r.Reaches a := by
    intro a
    rw [Bool.and_eq_true, List.contains_iff_mem, and_comm]
    rfl
  unfold Routing.of
  cases hfind : Endpoint.all.find? fun a => a.isAt r.path && a.methods.contains r.method with
  | none =>
      have hnone := List.find?_eq_none.1 hfind e (Endpoint.mem_all e)
      constructor
      · intro h
        simp only at h
        split at h
        · cases h
        · split at h <;> cases h
      · intro he
        exact absurd ((hreaches e).2 he) hnone
  | some a =>
      have ha := (hreaches a).1 (by simpa using List.find?_some hfind)
      simp only [Routing.found.injEq]
      constructor
      · rintro rfl
        exact ha
      · intro he
        exact Endpoint.eq_of_reaches ha he

/-! ## Bodies -/

/-- The bytes of the body of a request, in one piece or put together from several. -/
def Request.content (r : Request) : Bytes :=
  match r.payload with
  | .absent => []
  | .announced content => content
  | .chunked pieces => pieces.flatten

theorem MessageStream.bodyOf_messagesOf (pieces : List Bytes) :
    bodyOf (Payload.messagesOf pieces) = pieces.flatten := by
  induction pieces with
  | nil => rfl
  | cons first rest ih =>
      cases rest with
      | nil => simp [Payload.messagesOf, bodyOf, Message.piece, Message.bytes]
      | cons second more =>
          simp only [Payload.messagesOf, List.flatten_cons] at ih ⊢
          simp [bodyOf, Message.piece, Message.bytes, ih]

theorem Request.bodyOf_messages (r : Request) : MessageStream.bodyOf r.messages = r.content := by
  unfold messages content
  cases r.payload with
  | absent => rfl
  | announced content => simp [MessageStream.bodyOf_messagesOf]
  | chunked pieces => exact MessageStream.bodyOf_messagesOf pieces

namespace Upload

/-- The messages that are collected are handed on with all of their bytes. -/
theorem body_of_collect {limit : Int} {taken : Bytes} {messages : List Message} {stream : MessageStream}
    (h : collect limit taken messages = .admitted stream) :
    stream.body = taken ++ MessageStream.bodyOf messages := by
  induction messages generalizing taken with
  | nil => cases h
  | cons m rest ih =>
      simp only [collect] at h
      split at h
      · cases h
      · split at h
        · cases h
        · split at h
          · next hmore =>
              rw [ih h, MessageStream.bodyOf, if_pos hmore, List.append_assoc]
          · next hmore =>
              obtain rfl := UploadVerdict.admitted.inj h
              rw [MessageStream.bodyOf, if_neg hmore]
              simp [MessageStream.body, MessageStream.bodyOf, Message.piece, Message.bytes]

/-- A request that is let pass is read with the whole of its body. -/
theorem body_of_screen {limit : Int} {r : Request} {stream : MessageStream}
    (h : screen limit "http" r.headers r.messages = .ok (.admitted stream)) :
    stream.body = r.content := by
  rw [← r.bodyOf_messages]
  have hwhole : (⟨none, r.messages⟩ : MessageStream).body = MessageStream.bodyOf r.messages := by
    simp [MessageStream.body]
  unfold screen at h
  rw [if_neg (by simp)] at h
  split at h
  · have hcollected := body_of_collect (Except.ok.inj h)
    simpa using hcollected
  · split at h
    · split at h
      · cases h
      · split at h
        · cases h
        · rw [← UploadVerdict.admitted.inj (Except.ok.inj h), hwhole]
    · rw [← UploadVerdict.admitted.inj (Except.ok.inj h), hwhole]

end Upload

/-! ## Submitted entries -/

namespace Request

/-- The body of the request is a JSON value. -/
def Carries (r : Request) (value : Json) : Prop :=
  r.isJson = true ∧ Json.parseBytes Server.bodyLimits r.content = .ok value

/-- The request submits an entry: its body is a JSON object with the texts of the entry, of which those that
are left out are empty. -/
def Submits (r : Request) (entry : Entry) : Prop :=
  ∃ value, r.Carries value ∧ EntryForm.ofJson? value = some (.ofEntry entry)

/-- The request submits an entry for the row that the id text `s` names. -/
def SubmitsFor (r : Request) (s : String) (entry : Entry) : Prop :=
  ∃ value, r.Carries value ∧ AddressedForm.ofJson? value = some ⟨.text s, .ofEntry entry⟩

end Request

namespace EntryForm

variable {form : EntryForm} {date : String} {stored : Entry}

theorem ofString_stored_eq_ok {field : JsonString} {stored : Option String}
    (h : (FieldInput.ofString field).stored = .ok stored) : ∃ s, field = .text s ∧ stored = some s := by
  cases field with
  | text s => exact ⟨s, rfl, (Except.ok.inj h).symm⟩
  | unpaired points => cases h

/-- What a form submits is stored exactly when it is all texts. -/
theorem inputAt_forExistingRow_eq_ok (h : (form.inputAt date).forExistingRow = .ok stored) :
    form.title = .text stored.title ∧ form.comment = .text stored.comment
      ∧ form.rule = .text stored.rule ∧ stored.date = date := by
  unfold EntryInput.forExistingRow at h
  obtain ⟨date', hdate, h⟩ := bind_eq_ok_iff.1 h
  obtain ⟨title', htitle, h⟩ := bind_eq_ok_iff.1 h
  obtain ⟨comment', hcomment, h⟩ := bind_eq_ok_iff.1 h
  obtain ⟨rule', hrule, h⟩ := bind_eq_ok_iff.1 h
  obtain rfl := Except.ok.inj hdate
  obtain ⟨title, htitleText, rfl⟩ := ofString_stored_eq_ok htitle
  obtain ⟨comment, hcommentText, rfl⟩ := ofString_stored_eq_ok hcomment
  obtain ⟨rule, hruleText, rfl⟩ := ofString_stored_eq_ok hrule
  obtain rfl := Except.ok.inj h
  exact ⟨htitleText, hcommentText, hruleText, rfl⟩

/-- No field of a form is null, so that it makes no difference whether the row is new. -/
theorem inputAt_forNewRow (form : EntryForm) (date : String) :
    (form.inputAt date).forNewRow = (form.inputAt date).forExistingRow := by
  obtain ⟨d, title, comment, rule⟩ := form
  cases title <;> cases comment <;> cases rule <;> rfl

/-- A form whose accepted fields are stored is one of texts, and its accepted form is what is stored. -/
theorem eq_ofEntry_of_stored {today : Date} {accepted : Entry}
    (haccepted : form.shown.normalize today = .ok accepted)
    (hstored : form.title = .text stored.title ∧ form.comment = .text stored.comment
      ∧ form.rule = .text stored.rule ∧ stored.date = accepted.date) :
    ∃ entry, form = .ofEntry entry ∧ entry.normalize today = .ok stored := by
  obtain ⟨htitle, hcomment, hrule, hdate⟩ := hstored
  have htext : ∃ s, form.date = .text s := by
    cases hform : form.date with
    | text s => exact ⟨s, rfl⟩
    | unpaired points =>
        -- What stands for a string that is no text is no date.
        obtain ⟨-, d, hd⟩ := Entry.exists_date_of_normalize haccepted
        have hshown : form.shown.dateOn today = "\uFFFD" := by
          simp [shown, hform, JsonString.shown, Entry.dateOn]
        have hnoDate : ∀ e, Compact.parse "\uFFFD" ≠ .ok e := by
          intro e he
          cases he
        rw [hshown] at hd
        exact absurd hd (hnoDate d)
  obtain ⟨s, hs⟩ := htext
  have hform : form = .ofEntry { stored with date := s } := by
    cases form
    simp_all [ofEntry]
  refine ⟨_, hform, ?_⟩
  have hkept := Entry.eq_of_normalize haccepted
  rw [hform, shown_ofEntry] at haccepted hkept
  rw [haccepted, hkept, ← hdate]

end EntryForm
end Agenda
