import Agenda.Proofs.Server.Bodies
import Agenda.Proofs.Server.Gate
import Agenda.Proofs.Store.Catalog
/-!
# Requests for rows that are not there

An id that is the id of no row is answered as unknown, whatever stands in its place, unless it is a number beyond 64
bits: such an id is looked for in vain, too, but the search itself fails.

* `Table.Unknown` — an id is given, and it is the id of no row.
* `Table.locate_of_unknown` — why no row is found for such an id.
* `Request.AsksFor` — the request is about the row that an id names.
* `Server.respond_of_locate_eq_error` — it is answered by the reason why there is no row.
* `Server.respond_unknownId` — what a request for an unknown id is answered.
-/

namespace Agenda

/-! ## Unknown ids -/

/-- The id is given, and no row has the integer that it denotes, if it denotes one. -/
structure Table.Unknown (t : Table) (id : IdInput) : Prop where
  given : ¬ id.IsBlank
  absent : ∀ n, id.Denotes n → t.entryAt? n = none

instance (t : Table) : DecidablePred t.Unknown
  | .absent => isFalse fun hunknown => hunknown.given trivial
  | .number k =>
      decidable_of_iff (t.entryAt? k = none) ⟨fun h => ⟨id, fun _ hn => hn ▸ h⟩, fun h => h.absent k rfl⟩
  | .text s =>
      decidable_of_iff (Text.trim s.toList ≠ [] ∧ ∀ n ∈ Text.readInteger s.toList, t.entryAt? n = none)
        ⟨fun h => ⟨h.1, h.2⟩, fun h => ⟨h.given, h.absent⟩⟩

/-- No row is found for an unknown id, and only a number beyond 64 bits is too large to be looked for. -/
theorem Table.locate_of_unknown {t : Table} {id : IdInput} (hunknown : t.Unknown id) :
    (id.Fits → t.locate id = .error .notFound) ∧ (¬ id.Fits → t.locate id = .error .numberTooLarge) := by
  constructor
  · intro hfits
    rcases t.locate_cases hfits with ⟨hblank, -⟩ | ⟨-, -, hlocate⟩ | ⟨row, hrow, hid, -⟩
    · exact absurd hblank hunknown.given
    · exact hlocate
    · have hnone := hunknown.absent row.id hid
      rw [entryAt?_of_mem hrow] at hnone
      cases hnone
  · intro hbeyond
    unfold IdInput.Fits at hbeyond
    push Not at hbeyond
    obtain ⟨n, hn, hfits⟩ := hbeyond
    refine bind_eq_error_iff.2 (Or.inr ⟨n, IdInput.resolve_eq_ok_iff.2 hn, ?_⟩)
    rw [if_neg hfits]

/-! ## Requests for a row -/

/-- On a day, the request is about the row that an id names: the id is a parameter, or it stands in the body beside an
entry that is accepted on this day. -/
inductive Request.AsksFor (today : Date) (r : Request) : IdInput → Prop
  | read (hreaches : r.Reaches .readTask) : AsksFor today r (.text (r.parameter "id"))
  | delete (hreaches : r.Reaches .deleteTask) : AsksFor today r (.text (r.parameter "id"))
  | complete (hreaches : r.Reaches .completeTask) : AsksFor today r (.text (r.parameter "id"))
  | replace {value : Json} {form : AddressedForm} {accepted : Entry} (hreaches : r.Reaches .replaceTask)
      (hcarries : r.Carries value) (hform : AddressedForm.ofJson? value = some form)
      (haccepted : form.entry.shown.normalize today = .ok accepted) : AsksFor today r form.idInput

namespace Server

variable {config : ServerConfig} {now : Moment} {s : ServerState} {r : Request}

/-- A request that is let pass by the limit and by the gate is served. -/
theorem respond_of_reaches {e : Endpoint} {body : Option Json}
    (hpasses : r.Passes config.settings.maxUploadSize)
    (hgate : config.settings.password = "" ∨ r.Admitted config.settings now) (hreaches : r.Reaches e)
    (hbody : (if e.readsBody then readBody r r.content else .ok none) = .ok body) :
    respond config now s r = serve config now r body s e := by
  have hrefusal : (if e.guarded then refusal config.settings now r else none) = none := by
    rw [refusal_eq_none_iff.2 hgate, ite_self]
  rw [respond_of_passes config now s hpasses, dispatch_of_reaches hreaches]
  simp only [enter, hbody, hrefusal]

/-- A request for a row that is not found is answered by the reason. -/
theorem respond_of_locate_eq_error {id : IdInput} {cause : StoreError}
    (hpasses : r.Passes config.settings.maxUploadSize)
    (hgate : config.settings.password = "" ∨ r.Admitted config.settings now) (hasks : r.AsksFor now.day id)
    (hlocate : s.table.locate id = .error cause) : respond config now s r = (storeFailure cause, s) := by
  cases hasks with
  | read hreaches =>
      rw [respond_of_reaches hpasses hgate hreaches rfl]
      simp only [serve, readTask, Table.lookup, hlocate]
  | delete hreaches =>
      have hdelete : s.table.delete (.text (r.parameter "id")) = .error cause :=
        bind_eq_error_iff.2 (Or.inl hlocate)
      rw [respond_of_reaches hpasses hgate hreaches rfl]
      simp only [serve, deleteTask, hdelete]
  | complete hreaches =>
      rw [respond_of_reaches hpasses hgate hreaches rfl]
      simp only [serve, completeTask, Table.lookup, hlocate]
  | @replace value form accepted hreaches hcarries hform haccepted =>
      have hupdate : ∀ input, s.table.update form.idInput input = .error cause := by
        intro input
        exact bind_eq_error_iff.2 (Or.inl hlocate)
      have hbody : Option.bind (some value) AddressedForm.ofJson? = some form := hform
      rw [respond_of_reaches hpasses hgate hreaches (readBody_of_carries hcarries)]
      simp only [serve, replaceTask, hbody, haccepted, hupdate]

/-- A request for an unknown id is answered as such, and changes nothing, as long as the id denotes no number beyond 64
bits; so is every command on the table that addresses a row.  For a number beyond 64 bits the server itself fails, and
changes nothing either. -/
theorem respond_unknownId {id : IdInput} (hpasses : r.Passes config.settings.maxUploadSize)
    (hgate : config.settings.password = "" ∨ r.Admitted config.settings now) (hasks : r.AsksFor now.day id)
    (hunknown : s.table.Unknown id) :
    (id.Fits → respond config now s r = (Response.error 404 "task not found", s)
        ∧ ∀ command, command.address? = some id → ∀ drawn,
          s.table.perform drawn command = (.error .notFound, s.table))
      ∧ (¬ id.Fits → respond config now s r = (Response.error 500 "internal server error", s)
        ∧ ∀ command, command.address? = some id → ∀ drawn,
          s.table.perform drawn command = (.error .numberTooLarge, s.table)) := by
  obtain ⟨hnotFound, htooLarge⟩ := Table.locate_of_unknown hunknown
  constructor
  · intro hfits
    exact ⟨respond_of_locate_eq_error hpasses hgate hasks (hnotFound hfits),
      fun command haddress => Table.perform_of_locate_eq_error haddress (hnotFound hfits)⟩
  · intro hbeyond
    exact ⟨respond_of_locate_eq_error hpasses hgate hasks (htooLarge hbeyond),
      fun command haddress => Table.perform_of_locate_eq_error haddress (htooLarge hbeyond)⟩

/-- Ids that are looked for in vain in a table with one row: none of them is its id, and the last one is beyond 64
bits. -/
theorem respond_unknownId_oneRow :
    let table : Table := ⟨[⟨3, ⟨"20240131", "water", "", "d 2"⟩⟩], by decide, by decide⟩
    let s : ServerState := ⟨table, Throttle.empty⟩
    let config : ServerConfig := { settings := {} }
    let answer := respond config (Moment.midnight ⟨2024, 1, 26, by decide⟩) s
    let fields := [("title", Json.ofText "tea"), ("id", Json.ofText "three")]
    let replacement : Request :=
      { method := "PUT", path := "/api/task", contentType := some "application/json"
        payload := .chunked [Text.utf8 ((Json.ofFields fields).write .dense)] }
    let unknown := (Response.error 404 "task not found", s)
    answer { method := "GET", path := "/api/task", query := [("id", "3.0")] } = unknown
      ∧ answer { method := "DELETE", path := "/api/task", query := [("id", "-3")] } = unknown
      ∧ answer { method := "POST", path := "/api/task/done", query := [("id", "3_3")] } = unknown
      ∧ answer replacement = unknown
      ∧ answer { method := "GET", path := "/api/task", query := [("id", "-9223372036854775809")] }
        = (Response.error 500 "internal server error", s) := by
  intro table s config answer fields replacement unknown
  have hbodyless : ∀ r : Request, r.content = [] → r.Passes config.settings.maxUploadSize := by
    intro r hcontent
    exact Request.passes_of_content_eq_nil hcontent (by decide)
  have hpasses : replacement.Passes config.settings.maxUploadSize :=
    (Request.screen_cases (Request.hasReadableLength_of_chunked rfl) _).2 (by decide +kernel)
  have hplain : Json.ArePlain bodyLimits fields := by
    simp only [fields, Json.arePlain_cons]
    refine ⟨?_, .text ?_, ?_, .text ?_, by simp [Json.ArePlain]⟩ <;> simp [Json.IsPlainChar]
  have hcarries : replacement.Carries (Json.ofFields fields) := by
    refine ⟨by decide +kernel, ?_⟩
    rw [show replacement.content = Text.utf8 ((Json.ofFields fields).write .dense) from List.flatten_singleton]
    exact Json.parseBytes_write hplain (by decide) (by decide)
  have hasks : replacement.AsksFor (Moment.midnight ⟨2024, 1, 26, by decide⟩).day (.text "three") := by
    have hform : AddressedForm.ofJson? (Json.ofFields fields)
        = some ⟨.text "three", ⟨.text "", .text "tea", .text "", .text ""⟩⟩ := rfl
    have haccepted : (Entry.mk "" "tea" "" "").normalize (Moment.midnight ⟨2024, 1, 26, by decide⟩).day
        = .ok ⟨"20240126", "tea", "", ""⟩ := by
      decide +kernel
    exact .replace ⟨by decide, by decide⟩ hcarries hform haccepted
  refine ⟨?_, ?_, ?_, ?_, ?_⟩
  · exact ((respond_unknownId (hbodyless _ rfl) (Or.inl rfl) (.read ⟨by decide, by decide⟩)
      (by decide +kernel)).1 (by decide +kernel)).1
  · exact ((respond_unknownId (hbodyless _ rfl) (Or.inl rfl) (.delete ⟨by decide, by decide⟩)
      (by decide +kernel)).1 (by decide +kernel)).1
  · exact ((respond_unknownId (hbodyless _ rfl) (Or.inl rfl) (.complete ⟨by decide, by decide⟩)
      (by decide +kernel)).1 (by decide +kernel)).1
  · exact ((respond_unknownId hpasses (Or.inl rfl) hasks (by decide +kernel)).1 (by decide +kernel)).1
  · exact ((respond_unknownId (hbodyless _ rfl) (Or.inl rfl) (.read ⟨by decide, by decide⟩)
      (by decide +kernel)).2 (by decide +kernel)).1

/-- A number beyond 64 bits is the id of no row, and still it is not answered as unknown: the search for it fails. -/
theorem respond_unknownId_beyond64Bits :
    let id := "9223372036854775808"
    let r : Request := { method := "GET", path := "/api/task", query := [("id", id)] }
    let config : ServerConfig := { settings := {} }
    let answer := respond config (Moment.midnight ⟨2024, 1, 26, by decide⟩) initial r
    r.Passes config.settings.maxUploadSize ∧ r.AsksFor ⟨2024, 1, 26, by decide⟩ (.text id)
      ∧ initial.table.Unknown (.text id) ∧ answer ≠ (Response.error 404 "task not found", initial) := by
  intro id r config answer
  have hpasses : r.Passes config.settings.maxUploadSize :=
    Request.passes_of_content_eq_nil rfl (by decide)
  have hasks : r.AsksFor ⟨2024, 1, 26, by decide⟩ (.text id) :=
    .read ⟨by decide, by decide⟩
  have hunknown : initial.table.Unknown (.text id) := by
    decide +kernel
  have hanswer : answer = (Response.error 500 "internal server error", initial) :=
    respond_of_locate_eq_error hpasses (Or.inl rfl) hasks
      ((Table.locate_of_unknown hunknown).2 (by decide +kernel))
  refine ⟨hpasses, hasks, hunknown, ?_⟩
  intro hsame
  have hstatus := congrArg (fun outcome => outcome.1.status) (hanswer.symm.trans hsame)
  exact absurd hstatus (by decide)

end Server
end Agenda
