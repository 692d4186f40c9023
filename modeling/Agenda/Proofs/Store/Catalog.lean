import Agenda.Proofs.Store.Commands
import Agenda.Proofs.Store.Listing
import Agenda.Store.Session
import Mathlib.Logic.Function.Basic
/-!
# The table as a catalog of entries

What a session means, said of a finite map from ids to entries alone: which entry each command writes under
which id, and why it is refused.  The table does exactly this.

* `Catalog` — entries under ids.
* `Catalog.Step` — what a command answers and what it makes of a catalog; `Catalog.Refuses` — why it is
  refused.
* `Catalog.Run` — a session, step by step.
* `Table.perform_step` — the table takes these steps.
-/

namespace Agenda

/-- Entries under ids. -/
abbrev Catalog := Int → Option Entry

/-! ## What commands are given -/

namespace FieldInput

/-- A field of the kinds that sessions are about: a text, null, or a list or an object. -/
def IsPlain : FieldInput → Prop
  | text _ | null | composite => True
  | number _ | unpaired => False

instance : DecidablePred IsPlain
  | text _ | null | composite => isTrue trivial
  | number _ | unpaired => isFalse fun h => h

/-- The text of a new row's field: null stands for the empty text. -/
def textOrEmpty? : FieldInput → Option String
  | text s => some s
  | null => some ""
  | _ => none

end FieldInput

namespace EntryInput

/-- The four fields. -/
def fields (input : EntryInput) : List FieldInput :=
  [input.date, input.title, input.comment, input.rule]

/-- The entry that the fields make in a new row. -/
def Provides (input : EntryInput) (entry : Entry) : Prop :=
  input.fields.map FieldInput.textOrEmpty?
    = [some entry.date, some entry.title, some entry.comment, some entry.rule]

end EntryInput

namespace TableCommand

/-- The id by which a command addresses a row. -/
def address? : TableCommand → Option IdInput
  | lookup id | update id _ | reschedule id _ | delete id => some id
  | insert _ | list _ _ => none

/-- The fields that a command writes. -/
def fields : TableCommand → List FieldInput
  | insert input | update _ input => input.fields
  | reschedule _ date => [date]
  | lookup _ | list _ _ | delete _ => []

/-- The limit of a command that lists rows. -/
def limit? : TableCommand → Option Int
  | list limit _ => some limit
  | _ => none

/-- The id and the limit of the command fit in 64 bits, and its fields are texts, null, lists or objects. -/
structure InScope (command : TableCommand) : Prop where
  address : ∀ id ∈ command.address?, id.Fits
  limit : ∀ limit ∈ command.limit?, fitsRow limit = true
  fields : ∀ field ∈ command.fields, field.IsPlain

instance : DecidablePred InScope := fun command =>
  decidable_of_iff ((∀ id ∈ command.address?, id.Fits) ∧ (∀ limit ∈ command.limit?, fitsRow limit = true)
      ∧ ∀ field ∈ command.fields, field.IsPlain)
    ⟨fun ⟨haddress, hlimit, hfields⟩ => ⟨haddress, hlimit, hfields⟩,
      fun h => ⟨h.address, h.limit, h.fields⟩⟩

end TableCommand

/-! ## Steps -/

namespace Catalog

/-- The id is the one after the largest, which is one when there is none. -/
def IsNext (m : Catalog) (id : Int) : Prop :=
  ((∀ k, m k = none) ∧ id = 1)
    ∨ ((∀ k entry, m k = some entry → k < id) ∧ ∃ entry, m (id - 1) = some entry)

/-- The largest id that there can be is taken. -/
def IsSpent (m : Catalog) : Prop :=
  ∃ entry, m maxRowId = some entry

/-- A new entry may stand under the id: it is the one after the largest, or, once the largest one is taken, any
positive one that is free.  Without `spent` the largest one is never taken. -/
def IsNew (spent : Prop) (m : Catalog) (id : Int) : Prop :=
  (m.IsNext id ∧ id ≤ maxRowId) ∨ (spent ∧ m.IsSpent ∧ m id = none ∧ 1 ≤ id ∧ id ≤ maxRowId)

/-- The row stands in the catalog. -/
def Holds (m : Catalog) (row : Row) : Prop :=
  m row.id = some row.entry

/-- There is an entry to compare with a search text that is too long. -/
def IsStuck (m : Catalog) (limit : Int) (search : String) : Prop :=
  IsTooLong search ∧ limit ≠ 0 ∧ ∃ k entry, m k = some entry

/-- If a command addresses a row, there is an entry under the id. -/
def Serves (m : Catalog) (command : TableCommand) : Prop :=
  ∀ id, command.address? = some id → ∃ n entry, id.Denotes n ∧ m n = some entry

/-- Why a command is refused.  The id is looked at first, then whether all fields can be stored, and then
whether none of them is null. -/
inductive Refuses (spent : Prop) (m : Catalog) : TableCommand → StoreError → Prop
  | emptyId {command : TableCommand} {id : IdInput} (haddress : command.address? = some id)
      (hblank : id.IsBlank) : Refuses spent m command .emptyId
  | notFound {command : TableCommand} {id : IdInput} (haddress : command.address? = some id)
      (hblank : ¬ id.IsBlank) (hnone : ∀ n, id.Denotes n → m n = none) : Refuses spent m command .notFound
  | unstorable {command : TableCommand} (hserved : m.Serves command)
      (hcomposite : .composite ∈ command.fields) : Refuses spent m command .unstorable
  | missingField {command : TableCommand} {id : IdInput} (haddress : command.address? = some id)
      (hserved : m.Serves command) (hcomposite : .composite ∉ command.fields)
      (hnull : .null ∈ command.fields) : Refuses spent m command .missingField
  | full {input : EntryInput} (hcomposite : .composite ∉ input.fields) (hspent : spent) (hlast : m.IsSpent) :
      Refuses spent m (.insert input) .full
  | patternTooLong {limit : Int} {search : String} (hstuck : m.IsStuck limit search) :
      Refuses spent m (.list limit search) .patternTooLong

/-- What a command answers, and what it makes of a catalog. -/
inductive Step (spent : Prop) (m : Catalog) : TableCommand → Except StoreError TableReply → Catalog → Prop
  /-- An entry is added under a new id. -/
  | added {input : EntryInput} {entry : Entry} {id : Int} (hentry : input.Provides entry)
      (hnew : m.IsNew spent id) :
      Step spent m (.insert input) (.ok (.added id)) (Function.update m id (some entry))
  | shown {id : IdInput} {row : Row} (hnamed : id.Denotes row.id) (hold : m row.id = some row.entry) :
      Step spent m (.lookup id) (.ok (.row row)) m
  /-- The entries that the search text asks for are listed in order, up to the limit. -/
  | listed {limit : Int} {search : String} {rows : List Row} (hstuck : ¬ m.IsStuck limit search)
      (hlisting : Row.IsListing m.Holds search rows) :
      Step spent m (.list limit search) (.ok (.rows (cutTo limit rows))) m
  /-- All four fields of the addressed row are replaced. -/
  | updated {id : IdInput} {row : Row} {entry : Entry} (hnamed : id.Denotes row.id)
      (hold : m row.id = some row.entry) :
      Step spent m (.update id (.ofEntry entry)) (.ok (.row ⟨row.id, entry⟩))
        (Function.update m row.id (some entry))
  /-- The date of the addressed row is replaced. -/
  | rescheduled {id : IdInput} {row : Row} {date : String} (hnamed : id.Denotes row.id)
      (hold : m row.id = some row.entry) :
      Step spent m (.reschedule id (.text date)) (.ok (.row ⟨row.id, { row.entry with date := date }⟩))
        (Function.update m row.id (some { row.entry with date := date }))
  | deleted {id : IdInput} {row : Row} (hnamed : id.Denotes row.id) (hold : m row.id = some row.entry) :
      Step spent m (.delete id) (.ok (.removed row.id)) (Function.update m row.id none)
  /-- A command that is refused changes nothing. -/
  | refused {command : TableCommand} {cause : StoreError} (hcause : m.Refuses spent command cause) :
      Step spent m command (.error cause) m

/-- A session, step by step. -/
inductive Run (spent : Prop) : Catalog → List TableCommand → List (Except StoreError TableReply) → Catalog → Prop
  | nil {m : Catalog} : Run spent m [] [] m
  | cons {m m' m'' : Catalog} {command : TableCommand} {outcome : Except StoreError TableReply}
      {commands : List TableCommand} {outcomes : List (Except StoreError TableReply)}
      (hstep : Step spent m command outcome m') (hrest : Run spent m' commands outcomes m'') :
      Run spent m (command :: commands) (outcome :: outcomes) m''

end Catalog

/-! ## Fields -/

namespace FieldInput

/-- The field is null or a text, and this is its stored form. -/
def StoredAs (field : FieldInput) (text? : Option String) : Prop :=
  (field = .null ∧ text? = none) ∨ ∃ s, field = .text s ∧ text? = some s

/-- A plain field is stored unless it is a list or an object. -/
theorem stored_cases {field : FieldInput} (hplain : field.IsPlain) :
    (field = .composite ∧ field.stored = .error .unstorable)
      ∨ (field ≠ .composite ∧ ∃ text?, field.StoredAs text? ∧ field.stored = .ok text?) := by
  cases field with
  | composite => exact Or.inl ⟨rfl, rfl⟩
  | text s => exact Or.inr ⟨by simp, some s, Or.inr ⟨s, rfl, rfl⟩, rfl⟩
  | null => exact Or.inr ⟨by simp, none, Or.inl ⟨rfl, rfl⟩, rfl⟩
  | number n => exact hplain.elim
  | unpaired => exact hplain.elim

/-- Plain fields are stored unless one of them is a list or an object. -/
theorem mapM_stored_cases {fields : List FieldInput} (hplain : ∀ field ∈ fields, field.IsPlain) :
    (.composite ∈ fields ∧ fields.mapM stored = .error .unstorable)
      ∨ (.composite ∉ fields ∧ ∃ texts, List.Forall₂ StoredAs fields texts
        ∧ fields.mapM stored = .ok texts) := by
  induction fields with
  | nil => exact Or.inr ⟨by simp, [], List.Forall₂.nil, rfl⟩
  | cons field rest ih =>
      rw [List.forall_mem_cons] at hplain
      simp only [List.mapM_cons]
      rcases stored_cases hplain.1 with ⟨rfl, hstored⟩ | ⟨hne, text?, htext, hstored⟩
      · rw [hstored]
        exact Or.inl ⟨by simp, rfl⟩
      · rcases ih hplain.2 with ⟨hcomposite, hrest⟩ | ⟨hcomposite, texts, htexts, hrest⟩
        · rw [hstored, hrest]
          exact Or.inl ⟨by simp [hcomposite], rfl⟩
        · rw [hstored, hrest]
          exact Or.inr ⟨by simp [hcomposite, Ne.symm hne], text? :: texts, htexts.cons htext, rfl⟩

theorem StoredAs.textOrEmpty? {field : FieldInput} {text? : Option String} (h : field.StoredAs text?) :
    field.textOrEmpty? = some (text?.getD "") := by
  rcases h with ⟨rfl, rfl⟩ | ⟨s, rfl, rfl⟩ <;> rfl

end FieldInput

namespace EntryInput

variable {input : EntryInput}

theorem forNewRow_eq (input : EntryInput) :
    input.forNewRow = input.fields.mapM FieldInput.stored >>= fun
      | [date, title, comment, rule] =>
          .ok ⟨date.getD "", title.getD "", comment.getD "", rule.getD ""⟩
      | _ => .error .missingField := by
  simp [forNewRow, fields, List.mapM_cons]
  rfl

theorem forExistingRow_eq (input : EntryInput) :
    input.forExistingRow = input.fields.mapM FieldInput.stored >>= fun
      | [some date, some title, some comment, some rule] => .ok ⟨date, title, comment, rule⟩
      | _ => .error .missingField := by
  simp only [forExistingRow, fields, List.mapM_cons, List.mapM_nil, bind_assoc, pure_bind]
  refine bind_congr fun date => bind_congr fun title => bind_congr fun comment =>
    bind_congr fun rule => ?_
  cases date <;> cases title <;> cases comment <;> cases rule <;> rfl

/-- Four fields and their stored forms. -/
theorem forall₂_fields_iff {texts : List (Option String)} {p : FieldInput → Option String → Prop} :
    List.Forall₂ p input.fields texts ↔ ∃ date title comment rule,
      texts = [date, title, comment, rule] ∧ p input.date date ∧ p input.title title
        ∧ p input.comment comment ∧ p input.rule rule := by
  simp only [fields, List.forall₂_cons_left_iff, List.forall₂_nil_left_iff]
  constructor
  · rintro ⟨date, _, hdate, ⟨title, _, htitle, ⟨comment, _, hcomment, ⟨rule, _, hrule, rfl, rfl⟩, rfl⟩,
      rfl⟩, rfl⟩
    exact ⟨date, title, comment, rule, rfl, hdate, htitle, hcomment, hrule⟩
  · rintro ⟨date, title, comment, rule, rfl, hdate, htitle, hcomment, hrule⟩
    exact ⟨date, _, hdate, ⟨title, _, htitle, ⟨comment, _, hcomment, ⟨rule, _, hrule, rfl, rfl⟩, rfl⟩,
      rfl⟩, rfl⟩

/-- The stored forms of plain fields, unless one of them is a list or an object. -/
theorem mapM_stored_fields_cases (hplain : ∀ field ∈ input.fields, field.IsPlain) :
    (.composite ∈ input.fields ∧ input.fields.mapM FieldInput.stored = .error .unstorable)
      ∨ (.composite ∉ input.fields ∧ ∃ date title comment rule,
        input.fields.mapM FieldInput.stored = .ok [date, title, comment, rule] ∧ input.date.StoredAs date
          ∧ input.title.StoredAs title ∧ input.comment.StoredAs comment ∧ input.rule.StoredAs rule) := by
  refine (FieldInput.mapM_stored_cases hplain).imp_right ?_
  rintro ⟨hcomposite, texts, htexts, hstored⟩
  obtain ⟨date, title, comment, rule, rfl, hfields⟩ := forall₂_fields_iff.1 htexts
  exact ⟨hcomposite, date, title, comment, rule, hstored, hfields⟩

/-- Plain fields make a new row unless one of them is a list or an object. -/
theorem forNewRow_cases (hplain : ∀ field ∈ input.fields, field.IsPlain) :
    (.composite ∈ input.fields ∧ input.forNewRow = .error .unstorable)
      ∨ (.composite ∉ input.fields ∧ ∃ entry, input.Provides entry ∧ input.forNewRow = .ok entry) := by
  rw [forNewRow_eq]
  rcases mapM_stored_fields_cases hplain with ⟨hcomposite, hstored⟩ |
    ⟨hcomposite, date, title, comment, rule, hstored, hdate, htitle, hcomment, hrule⟩
  · rw [hstored]
    exact Or.inl ⟨hcomposite, rfl⟩
  · rw [hstored]
    refine Or.inr ⟨hcomposite, _, ?_, rfl⟩
    simp only [Provides, fields, List.map_cons, List.map_nil, hdate.textOrEmpty?, htitle.textOrEmpty?,
      hcomment.textOrEmpty?, hrule.textOrEmpty?]

/-- Plain fields replace those of a row if all of them are texts. -/
theorem forExistingRow_cases (hplain : ∀ field ∈ input.fields, field.IsPlain) :
    (.composite ∈ input.fields ∧ input.forExistingRow = .error .unstorable)
      ∨ (.composite ∉ input.fields ∧ .null ∈ input.fields ∧ input.forExistingRow = .error .missingField)
      ∨ ∃ entry, input = .ofEntry entry ∧ input.forExistingRow = .ok entry := by
  rw [forExistingRow_eq]
  rcases mapM_stored_fields_cases hplain with ⟨hcomposite, hstored⟩ |
    ⟨hcomposite, date, title, comment, rule, hstored, hdate, htitle, hcomment, hrule⟩
  · rw [hstored]
    exact Or.inl ⟨hcomposite, rfl⟩
  · rw [hstored]
    right
    rcases hdate with ⟨hdate, rfl⟩ | ⟨date, hdate, rfl⟩
    · exact Or.inl ⟨hcomposite, by simp [fields, hdate], rfl⟩
    rcases htitle with ⟨htitle, rfl⟩ | ⟨title, htitle, rfl⟩
    · exact Or.inl ⟨hcomposite, by simp [fields, htitle], rfl⟩
    rcases hcomment with ⟨hcomment, rfl⟩ | ⟨comment, hcomment, rfl⟩
    · exact Or.inl ⟨hcomposite, by simp [fields, hcomment], rfl⟩
    rcases hrule with ⟨hrule, rfl⟩ | ⟨rule, hrule, rfl⟩
    · exact Or.inl ⟨hcomposite, by simp [fields, hrule], rfl⟩
    · refine Or.inr ⟨⟨date, title, comment, rule⟩, ?_, rfl⟩
      cases input
      simp_all [ofEntry]

end EntryInput

/-! ## The table -/

namespace Table

variable {t t' : Table}

/-- A change of the table at one id, said of its catalog. -/
theorem ChangesOnly.entryAt?_eq {n : Int} {entry : Option Entry} (hchange : t.ChangesOnly t' n entry) :
    t'.entryAt? = Function.update t.entryAt? n entry := by
  funext m
  rw [hchange m, Function.update_apply]

theorem rows_ne_nil_iff : t.rows ≠ [] ↔ ∃ k entry, t.entryAt? k = some entry := by
  constructor
  · intro hne
    obtain ⟨r, hr⟩ := List.exists_mem_of_ne_nil _ hne
    exact ⟨r.id, r.entry, entryAt?_of_mem hr⟩
  · rintro ⟨k, entry, hentry⟩
    obtain ⟨r, hr, -⟩ := entryAt?_eq_some_iff.1 hentry
    exact List.ne_nil_of_mem hr

/-- The id that is the first to be given to a new row is the one after the largest. -/
theorem isNext_nextId (t : Table) : Catalog.IsNext t.entryAt? t.nextId := by
  by_cases hempty : t.rows = []
  · left
    refine ⟨fun k => ?_, by rw [nextId, hempty]; rfl⟩
    rw [Option.eq_none_iff_forall_ne_some]
    exact fun entry hentry => rows_ne_nil_iff.2 ⟨k, entry, hentry⟩ hempty
  · right
    constructor
    · intro k entry hentry
      obtain ⟨r, hr, rfl, -⟩ := entryAt?_eq_some_iff.1 hentry
      exact id_lt_nextId hr
    · have hnext : t.nextId = (t.rows.getLast hempty).id + 1 := by
        rw [nextId, List.getLast?_eq_some_getLast hempty]
      rw [hnext, add_sub_cancel_right]
      exact ⟨_, entryAt?_of_mem (List.getLast_mem hempty)⟩

/-- Only when the largest id is taken is there no id after it. -/
theorem isSpent_of_lt_nextId (h : maxRowId < t.nextId) : Catalog.IsSpent t.entryAt? := by
  rcases isNext_nextId t with ⟨-, hfirst⟩ | ⟨-, entry, hentry⟩
  · rw [hfirst] at h
    exact absurd h (by decide)
  · obtain ⟨r, hr, hid, -⟩ := entryAt?_eq_some_iff.1 hentry
    have hle := (fitsRow_iff.1 (t.inRange r hr)).2
    have hlast : t.nextId - 1 = maxRowId := by omega
    exact ⟨entry, hlast ▸ hentry⟩

theorem lt_nextId_of_add?_eq_none {drawn : List Int} {entry : Entry} (h : t.add? drawn entry = none) :
    maxRowId < t.nextId := by
  by_contra hnot
  have hid : t.freeId? drawn = some t.nextId := if_pos (not_lt.1 hnot)
  rw [add?_eq_some_iff.2 ⟨hid, rfl⟩] at h
  cases h

/-- An entry is added under a new id. -/
theorem isNew_of_add? {spent : Prop} {drawn : List Int} {entry : Entry} {id : Int}
    (hspent : Catalog.IsSpent t.entryAt? → spent) (hadd : t.add? drawn entry = some (id, t')) :
    Catalog.IsNew spent t.entryAt? id := by
  obtain ⟨hid, -⟩ := add?_eq_some_iff.1 hadd
  obtain ⟨hfree, rfl | ⟨hnext, -, hpositive, hle⟩⟩ := freeId?_cases hid
  · exact Or.inl ⟨isNext_nextId t, (fitsRow_iff.1 (fitsRow_of_freeId? hid)).2⟩
  · have hlast := isSpent_of_lt_nextId hnext
    exact Or.inr ⟨hspent hlast, hlast, hfree, hpositive, hle⟩

/-- A command for which there is no row is refused for its id. -/
theorem perform_of_locate_eq_error {command : TableCommand} {id : IdInput} {cause : StoreError}
    (haddress : command.address? = some id) (h : t.locate id = .error cause) (drawn : List Int) :
    t.perform drawn command = (.error cause, t) := by
  cases command with
  | insert input => cases haddress
  | list limit search => cases haddress
  | lookup id' =>
      obtain rfl := Option.some.inj haddress
      simp only [perform, lookup, h]
      rfl
  | update id' input =>
      obtain rfl := Option.some.inj haddress
      simp only [perform, update, h]
      rfl
  | reschedule id' date =>
      obtain rfl := Option.some.inj haddress
      simp only [perform, reschedule, h]
      rfl
  | delete id' =>
      obtain rfl := Option.some.inj haddress
      simp only [perform, delete, h]
      rfl

/-! ### Steps of the table -/

variable {spent : Prop} (drawn : List Int)

theorem insert_step (t : Table) (hspent : Catalog.IsSpent t.entryAt? → spent) {input : EntryInput}
    (hplain : ∀ field ∈ input.fields, field.IsPlain) :
    Catalog.Step spent t.entryAt? (.insert input) (t.perform drawn (.insert input)).1
      (t.perform drawn (.insert input)).2.entryAt? := by
  rcases EntryInput.forNewRow_cases hplain with ⟨hcomposite, hentry⟩ | ⟨hcomposite, entry, hprovides, hentry⟩
  · have hinsert : t.insert drawn input = .error .unstorable := bind_eq_error_iff.2 (Or.inl hentry)
    rw [perform, hinsert]
    exact Catalog.Step.refused (Catalog.Refuses.unstorable (fun id haddress => (by cases haddress)) hcomposite)
  · cases hadd : t.add? drawn entry with
    | none =>
        have hinsert : t.insert drawn input = .error .full :=
          bind_eq_error_iff.2 (Or.inr ⟨entry, hentry, by rw [hadd]⟩)
        have hlast := isSpent_of_lt_nextId (lt_nextId_of_add?_eq_none hadd)
        rw [perform, hinsert]
        exact Catalog.Step.refused (Catalog.Refuses.full hcomposite (hspent hlast) hlast)
    | some result =>
        obtain ⟨id, t'⟩ := result
        have hinsert : t.insert drawn input = .ok (id, t') :=
          bind_eq_ok_iff.2 ⟨entry, hentry, by rw [hadd]; rfl⟩
        simp only [perform, hinsert, settle, (changesOnly_add hadd).2.entryAt?_eq]
        exact Catalog.Step.added hprovides (isNew_of_add? hspent hadd)

/-- The rows that a search text asks for are listed, unless one of them cannot be compared with it. -/
theorem list_step (t : Table) {limit : Int} (hlimit : fitsRow limit = true) (search : String) :
    Catalog.Step spent t.entryAt? (.list limit search) (t.perform drawn (.list limit search)).1
      (t.perform drawn (.list limit search)).2.entryAt? := by
  have hheld : (· ∈ t.rows) = Catalog.Holds t.entryAt? := funext fun row => propext mem_rows_iff
  rw [perform, list_eq t search hlimit]
  by_cases hstuck : IsTooLong search ∧ t.rows ≠ [] ∧ limit ≠ 0
  · obtain ⟨hlong, hrows, hpositive⟩ := hstuck
    rw [if_pos ⟨hlong, hrows, hpositive⟩]
    exact Catalog.Step.refused (Catalog.Refuses.patternTooLong ⟨hlong, hpositive, rows_ne_nil_iff.1 hrows⟩)
  · rw [if_neg hstuck]
    refine Catalog.Step.listed ?_ (hheld ▸ t.isListing_byDate search)
    rintro ⟨hlong, hpositive, hentry⟩
    exact hstuck ⟨hlong, rows_ne_nil_iff.2 hentry, hpositive⟩

section Addressed

variable {command : TableCommand} {id : IdInput} {row : Row} (hrow : row ∈ t.rows) (hid : id.Denotes row.id)
include hrow hid

theorem serves_of_denotes (haddress : command.address? = some id) :
    Catalog.Serves t.entryAt? command := by
  intro id' haddress'
  rw [haddress] at haddress'
  obtain rfl := Option.some.inj haddress'
  exact ⟨row.id, row.entry, hid, entryAt?_of_mem hrow⟩

/-- The row gets all fields, unless one of them is none that a row can have. -/
theorem update_step {input : EntryInput} (hplain : ∀ field ∈ input.fields, field.IsPlain) :
    Catalog.Step spent t.entryAt? (.update id input) (t.perform drawn (.update id input)).1
      (t.perform drawn (.update id input)).2.entryAt? := by
  have hlocate : t.locate id = .ok row := locate_eq_ok_iff.2 ⟨hrow, hid⟩
  have hserved := serves_of_denotes hrow hid (show (TableCommand.update id input).address? = some id from rfl)
  have hfailed : ∀ {cause}, input.forExistingRow = .error cause → t.update id input = .error cause :=
    fun hentry => bind_eq_error_iff.2 (Or.inr ⟨row, hlocate, bind_eq_error_iff.2 (Or.inl hentry)⟩)
  rcases EntryInput.forExistingRow_cases hplain with
    ⟨hcomposite, hentry⟩ | ⟨hcomposite, hnull, hentry⟩ | ⟨entry, rfl, hentry⟩
  · rw [perform, hfailed hentry]
    exact Catalog.Step.refused (Catalog.Refuses.unstorable hserved hcomposite)
  · rw [perform, hfailed hentry]
    exact Catalog.Step.refused (Catalog.Refuses.missingField rfl hserved hcomposite hnull)
  · have hupdate : t.update id (.ofEntry entry) = .ok (⟨row.id, entry⟩, t.replace row.id fun _ => entry) :=
      bind_eq_ok_iff.2 ⟨row, hlocate, bind_eq_ok_iff.2 ⟨entry, hentry, rfl⟩⟩
    have hchange := changesOnly_replace_of_mem hrow fun _ => entry
    simp only [perform, hupdate, settle, hchange.entryAt?_eq]
    exact Catalog.Step.updated hid (entryAt?_of_mem hrow)

/-- The row gets the date, unless this is none that a row can have. -/
theorem reschedule_step {date : FieldInput} (hplain : date.IsPlain) :
    Catalog.Step spent t.entryAt? (.reschedule id date) (t.perform drawn (.reschedule id date)).1
      (t.perform drawn (.reschedule id date)).2.entryAt? := by
  have hlocate : t.locate id = .ok row := locate_eq_ok_iff.2 ⟨hrow, hid⟩
  have hserved := serves_of_denotes hrow hid (show (TableCommand.reschedule id date).address? = some id from rfl)
  rcases FieldInput.stored_cases hplain with
    ⟨rfl, hstored⟩ | ⟨hcomposite, text?, ⟨rfl, rfl⟩ | ⟨s, rfl, rfl⟩, hstored⟩
  · have hmove : t.reschedule id .composite = .error .unstorable :=
      bind_eq_error_iff.2 (Or.inr ⟨row, hlocate, bind_eq_error_iff.2 (Or.inl hstored)⟩)
    rw [perform, hmove]
    exact Catalog.Step.refused (Catalog.Refuses.unstorable hserved (by simp [TableCommand.fields]))
  · have hmove : t.reschedule id .null = .error .missingField :=
      bind_eq_error_iff.2 (Or.inr ⟨row, hlocate, bind_eq_error_iff.2 (Or.inr ⟨none, hstored, rfl⟩)⟩)
    rw [perform, hmove]
    exact Catalog.Step.refused (Catalog.Refuses.missingField rfl hserved
      (by simp [TableCommand.fields]) (by simp [TableCommand.fields]))
  · have hchange := changesOnly_replace_of_mem hrow fun entry => { entry with date := s }
    simp only [perform, reschedule_of_locate hlocate, settle, hchange.entryAt?_eq]
    exact Catalog.Step.rescheduled hid (entryAt?_of_mem hrow)

/-- A command whose id addresses a row. -/
theorem addressed_step (hscope : command.InScope) (haddress : command.address? = some id) :
    Catalog.Step spent t.entryAt? command (t.perform drawn command).1 (t.perform drawn command).2.entryAt? := by
  have hlocate : t.locate id = .ok row := locate_eq_ok_iff.2 ⟨hrow, hid⟩
  have hold : t.entryAt? row.id = some row.entry := entryAt?_of_mem hrow
  cases command with
  | insert input => cases haddress
  | list limit search => cases haddress
  | lookup id' =>
      obtain rfl := Option.some.inj haddress
      simp only [perform, lookup, hlocate]
      exact Catalog.Step.shown hid hold
  | delete id' =>
      obtain rfl := Option.some.inj haddress
      have hdelete : t.delete id' = .ok (row, t.remove row.id) := bind_eq_ok_iff.2 ⟨row, hlocate, rfl⟩
      simp only [perform, hdelete, settle, (changesOnly_remove t row.id).entryAt?_eq]
      exact Catalog.Step.deleted hid hold
  | update id' input =>
      obtain rfl := Option.some.inj haddress
      exact update_step drawn hrow hid hscope.fields
  | reschedule id' date =>
      obtain rfl := Option.some.inj haddress
      exact reschedule_step drawn hrow hid (hscope.fields date (List.mem_singleton.2 rfl))

end Addressed

/-- Every command in scope does to the table what it does to a catalog. -/
theorem perform_step (t : Table) (hspent : Catalog.IsSpent t.entryAt? → spent) {command : TableCommand}
    (hscope : command.InScope) :
    Catalog.Step spent t.entryAt? command (t.perform drawn command).1 (t.perform drawn command).2.entryAt? := by
  cases haddress : command.address? with
  | some id =>
      rcases locate_cases t (hscope.address id haddress) with
        ⟨hblank, hlocate⟩ | ⟨hblank, hnone, hlocate⟩ | ⟨row, hrow, hid, -⟩
      · rw [perform_of_locate_eq_error haddress hlocate]
        exact Catalog.Step.refused (Catalog.Refuses.emptyId haddress hblank)
      · rw [perform_of_locate_eq_error haddress hlocate]
        exact Catalog.Step.refused (Catalog.Refuses.notFound haddress hblank hnone)
      · exact addressed_step drawn hrow hid hscope haddress
  | none =>
      cases command with
      | insert input => exact insert_step drawn t hspent hscope.fields
      | list limit search => exact list_step drawn t (hscope.limit limit rfl) search
      | lookup id => cases haddress
      | update id input => cases haddress
      | reschedule id date => cases haddress
      | delete id => cases haddress

end Table
end Agenda
