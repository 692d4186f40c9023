import Agenda.Proofs.Store.Catalog
/-!
# Sessions from the table without rows

A session refines the run of a catalog.  From this follows what a row holds in the end: the entry that it was
added with, as the commands after that have rewritten it, as long as it is not removed.

* `Catalog.lastWritten` — an entry, as the commands of a log have rewritten it.
* `Catalog.Run.entry_eq` — the entry under an id, until it is removed.
* `Catalog.Within` — the ids of a catalog are positive and bounded; `Catalog.Step.within` — a step raises the bound by
  one.
* `Table.performAll_run` — a session is a run, in which the ids do not run out as long as there are fewer commands than
  ids.
* `Table.AgreesOn` — all commands find the same row by an id, or fail in the same way.
* `Table.performAll_refines` — what holds of every session.
-/

namespace Agenda

/-- The id of the one row that a reply is about. -/
def TableReply.rowId? : TableReply → Option Int
  | added id | removed id => some id
  | row r => some r.id
  | rows _ => none

namespace TableCommand

/-- An entry after a command has written its texts to it. -/
def rewrite : TableCommand → Entry → Entry
  | update _ ⟨.text date, .text title, .text comment, .text rule⟩, _ => ⟨date, title, comment, rule⟩
  | reschedule _ (.text date), entry => { entry with date := date }
  | _, entry => entry

/-- All fields that a command writes are texts. -/
def WritesTexts (command : TableCommand) : Prop :=
  ∀ field ∈ command.fields, ∃ s, field = .text s

end TableCommand

/-! ## Entries that are kept -/

namespace Catalog

/-- The entry under an id after a command with its outcome.  A success on the row with this id counts. -/
def rewritten (id : Int) (entry : Entry) : TableCommand × Except StoreError TableReply → Entry
  | (command, .ok reply) => if reply.rowId? = some id then command.rewrite entry else entry
  | (_, .error _) => entry

/-- The entry under an id after the commands of a log with their outcomes. -/
def lastWritten (id : Int) (entry : Entry) (log : List (TableCommand × Except StoreError TableReply)) :
    Entry :=
  log.foldl (rewritten id) entry

variable {spent : Prop} {m m' : Catalog} {id k : Int} {entry : Entry} {command : TableCommand}
  {outcome : Except StoreError TableReply} {commands : List TableCommand}
  {outcomes : List (Except StoreError TableReply)}

/-- No entry stands under a new id. -/
theorem IsNew.eq_none (h : m.IsNew spent id) : m id = none := by
  rcases h with ⟨⟨hnone, -⟩ | ⟨hlast, -⟩, -⟩ | ⟨-, -, hfree, -⟩
  · exact hnone id
  · rw [Option.eq_none_iff_forall_ne_some]
    exact fun entry hentry => lt_irrefl id (hlast id entry hentry)
  · exact hfree

/-- What a step leaves under an id. -/
theorem Step.entry_eq (h : Step spent m command outcome m') (hm : m id = some entry)
    (hkept : outcome ≠ .ok (.removed id)) : m' id = some (rewritten id entry (command, outcome)) := by
  -- A write to another row shows neither in the catalog nor in the entry.
  have hother : ∀ {n : Int} {entry' : Option Entry} {changed : Entry}, n ≠ id →
      Function.update m n entry' id = some (if some n = some id then changed else entry) := by
    intro n entry' changed hne
    rw [Function.update_of_ne hne.symm, if_neg (by simpa using hne), hm]
  cases h with
  | added hentry hnew =>
      apply hother
      rintro rfl
      rw [hnew.eq_none] at hm
      cases hm
  | shown hnamed hold =>
      show m id = some (if _ then entry else entry)
      rw [ite_self, hm]
  | listed => exact hm
  | @updated id' row entry' hnamed hold =>
      by_cases hid : row.id = id
      · subst hid
        simp [rewritten, TableReply.rowId?, TableCommand.rewrite, EntryInput.ofEntry]
      · exact hother hid
  | @rescheduled id' row date hnamed hold =>
      by_cases hid : row.id = id
      · subst hid
        obtain rfl := Option.some.inj (hm.symm.trans hold)
        simp [rewritten, TableReply.rowId?, TableCommand.rewrite]
      · exact hother hid
  | @deleted id' row hnamed hold =>
      apply hother
      rintro rfl
      exact hkept rfl
  | refused hcause => exact hm

/-- The entry under an id is the one that was last written, until it is removed. -/
theorem Run.entry_eq (h : Run spent m commands outcomes m') (hm : m id = some entry)
    (hkept : .ok (.removed id) ∉ outcomes) :
    m' id = some (lastWritten id entry (commands.zip outcomes)) := by
  induction h generalizing entry with
  | nil => exact hm
  | cons hstep hrest ih =>
      rw [List.mem_cons, not_or] at hkept
      exact ih (hstep.entry_eq hm (Ne.symm hkept.1)) hkept.2

/-- A run of two sequences of commands is a run of the first one and then of the second. -/
theorem Run.append_inv {earlier later : List TableCommand}
    (h : Run spent m (earlier ++ later) outcomes m') :
    ∃ before after mid, outcomes = before ++ after ∧ before.length = earlier.length
      ∧ Run spent m earlier before mid ∧ Run spent mid later after m' := by
  induction earlier generalizing m outcomes with
  | nil => exact ⟨[], outcomes, m, rfl, rfl, Run.nil, h⟩
  | cons command rest ih =>
      cases h with
      | cons hstep hrest =>
          obtain ⟨before, after, mid, rfl, hlength, hbefore, hafter⟩ := ih hrest
          exact ⟨_ :: before, after, mid, rfl, by simp [hlength], Run.cons hstep hbefore, hafter⟩

/-- What stands in the end under an id that has been given to a new row. -/
theorem Run.entry_of_added {earlier later : List TableCommand} {input : EntryInput}
    (h : Run spent m (earlier ++ .insert input :: later) outcomes m')
    (hadded : outcomes[earlier.length]? = some (.ok (.added id)))
    (hkept : .ok (.removed id) ∉ outcomes.drop (earlier.length + 1)) :
    ∃ entry, input.Provides entry
      ∧ m' id = some (lastWritten id entry (later.zip (outcomes.drop (earlier.length + 1)))) := by
  obtain ⟨before, after, mid, rfl, hlength, -, hafter⟩ := h.append_inv
  rw [← hlength] at hadded hkept ⊢
  rw [List.getElem?_append_right (Nat.le_refl _), Nat.sub_self] at hadded
  cases hafter with
  | @cons _ mid' _ _ outcome _ rest hstep hrest =>
      obtain rfl := Option.some.inj hadded
      have hdrop : (before ++ Except.ok (.added id) :: rest).drop (before.length + 1) = rest := by
        rw [List.drop_append, List.drop_of_length_le (Nat.le_succ _)]
        simp
      rw [hdrop] at hkept ⊢
      cases hstep with
      | @added _ entry _ hentry hnext =>
          exact ⟨entry, hentry, hrest.entry_eq (Function.update_self ..) hkept⟩

/-! ## Ids that are left -/

/-- The ids of the catalog are positive and at most `k`. -/
def Within (m : Catalog) (k : Int) : Prop :=
  ∀ n entry, m n = some entry → 1 ≤ n ∧ n ≤ k

/-- A new id lies at most one beyond the largest one. -/
theorem IsNew.within (h : m.IsNew spent id) (hm : m.Within k) (hk : 0 ≤ k) : 1 ≤ id ∧ id ≤ k + 1 := by
  rcases h with ⟨⟨-, rfl⟩ | ⟨-, entry, hentry⟩, -⟩ | ⟨-, ⟨last, hlast⟩, -, hpositive, hle⟩
  · omega
  · have hprevious := hm _ entry hentry
    omega
  · have hspent := hm maxRowId last hlast
    omega

/-- A step brings in one id at most. -/
theorem Step.within (h : Step spent m command outcome m') (hm : m.Within k) (hk : 0 ≤ k) :
    m'.Within (k + 1) := by
  have hkept : ∀ n entry, m n = some entry → 1 ≤ n ∧ n ≤ k + 1 := by
    intro n entry hn
    have hold := hm n entry hn
    omega
  -- The id that a step writes to is a new one or was there.
  have hwrite : ∀ {id : Int} {entry' : Option Entry}, 1 ≤ id ∧ id ≤ k + 1 →
      Within (Function.update m id entry') (k + 1) := by
    intro id entry' hid n entry hn
    by_cases heq : n = id
    · rwa [heq]
    · rw [Function.update_of_ne heq] at hn
      exact hkept n entry hn
  cases h with
  | added _ hnew => exact hwrite (hnew.within hm hk)
  | updated _ hid => exact hwrite (hkept _ _ hid)
  | rescheduled _ hid => exact hwrite (hkept _ _ hid)
  | deleted _ hid => exact hwrite (hkept _ _ hid)
  | _ => exact hkept

/-- As long as the largest id is not taken, no command finds the table full. -/
theorem Run.full_notMem (h : Run spent m commands outcomes m') (hspent : ¬ spent) : .error .full ∉ outcomes := by
  induction h with
  | nil => simp
  | cons hstep hrest ih =>
      rw [List.mem_cons, not_or]
      refine ⟨?_, ih⟩
      rintro rfl
      cases hstep with
      | refused hcause =>
          cases hcause with
          | full hcomposite hfull hlast => exact hspent hfull

end Catalog

/-! ## Rows that are addressed -/

namespace Table

variable {t : Table} {id : IdInput}

/-- All commands agree on what an id addresses.  Either each of them fails with the same error, or there is one
row on which each of them succeeds, as long as it writes nothing but texts. -/
def AgreesOn (t : Table) (id : IdInput) : Prop :=
  (∃ cause, ∀ command : TableCommand, command.address? = some id →
      ∀ drawn, t.perform drawn command = (.error cause, t))
    ∨ ∃ row ∈ t.rows, id.Denotes row.id ∧ ∀ command : TableCommand, command.address? = some id →
        command.WritesTexts →
        ∀ drawn, ∃ reply, (t.perform drawn command).1 = .ok reply ∧ reply.rowId? = some row.id

theorem inScope_of_writesTexts {command : TableCommand} {n : Int} (haddress : command.address? = some id)
    (htexts : command.WritesTexts) (hid : id.Denotes n) (hn : fitsRow n = true) : command.InScope where
  address id' haddress' := by
    obtain rfl := Option.some.inj (haddress.symm.trans haddress')
    intro n' hn'
    rw [hn'.unique hid]
    exact hn
  limit limit hlimit := by
    cases command <;> cases hlimit
    cases haddress
  fields field hfield := by
    obtain ⟨s, rfl⟩ := htexts field hfield
    trivial

/-- A command that addresses a row and writes nothing but texts is not refused. -/
theorem not_refuses_of_writesTexts {spent : Prop} {m : Catalog} {command : TableCommand} {cause : StoreError} {n : Int}
    {entry : Entry} (haddress : command.address? = some id) (htexts : command.WritesTexts)
    (hid : id.Denotes n) (hn : m n = some entry) : ¬ m.Refuses spent command cause := by
  intro hcause
  cases hcause with
  | emptyId haddress' hblank =>
      obtain rfl := Option.some.inj (haddress.symm.trans haddress')
      exact hid.not_isBlank hblank
  | notFound haddress' hblank hnone =>
      obtain rfl := Option.some.inj (haddress.symm.trans haddress')
      rw [hnone n hid] at hn
      cases hn
  | unstorable hserved hcomposite =>
      obtain ⟨s, hs⟩ := htexts _ hcomposite
      cases hs
  | missingField haddress' hserved hcomposite hnull =>
      obtain ⟨s, hs⟩ := htexts _ hnull
      cases hs
  | full => cases haddress
  | patternTooLong => cases haddress

/-- The commands of every table agree on every id. -/
theorem agreesOn (t : Table) (id : IdInput) : t.AgreesOn id := by
  cases hlocate : t.locate id with
  | error cause => exact Or.inl ⟨cause, fun command haddress => perform_of_locate_eq_error haddress hlocate⟩
  | ok row =>
      obtain ⟨hrow, hid⟩ := locate_eq_ok_iff.1 hlocate
      refine Or.inr ⟨row, hrow, hid, ?_⟩
      intro command haddress htexts drawn
      have hstep := perform_step drawn t (fun _ => trivial)
        (inScope_of_writesTexts haddress htexts hid (t.inRange row hrow))
      have hsame : ∀ {id' : IdInput} {row' : Row}, id = id' → id'.Denotes row'.id → row'.id = row.id := by
        rintro id' row' rfl hid'
        exact hid'.unique hid
      generalize (t.perform drawn command).1 = outcome at hstep ⊢
      generalize (t.perform drawn command).2.entryAt? = m' at hstep
      cases hstep with
      | added => cases haddress
      | listed => cases haddress
      | shown hid' => exact ⟨_, rfl, congrArg some (hsame (Option.some.inj haddress).symm hid')⟩
      | updated hid' => exact ⟨_, rfl, congrArg some (hsame (Option.some.inj haddress).symm hid')⟩
      | rescheduled hid' => exact ⟨_, rfl, congrArg some (hsame (Option.some.inj haddress).symm hid')⟩
      | deleted hid' => exact ⟨_, rfl, congrArg some (hsame (Option.some.inj haddress).symm hid')⟩
      | refused hcause =>
          exact absurd hcause (not_refuses_of_writesTexts haddress htexts hid (entryAt?_of_mem hrow))

/-- The decimal text of an id finds the entry under it. -/
theorem lookup_signedDecimal {n : Int} {entry : Entry} (hentry : t.entryAt? n = some entry) :
    t.lookup (.text (String.ofList (Text.signedDecimal n))) = .ok ⟨n, entry⟩ := by
  have hrow : (⟨n, entry⟩ : Row) ∈ t.rows := mem_rows_iff.2 hentry
  exact locate_eq_ok_iff.2 ⟨hrow, IdInput.denotes_signedDecimal (t.inRange _ hrow)⟩

/-! ## Sessions -/

/-- A session on the table is a session on its catalog.  If there are fewer commands than ids beyond those of the
table, the largest id is not taken. -/
theorem performAll_run {spent : Prop} {k : Int} (t : Table) (drawn : Nat → List Int)
    {commands : List TableCommand} (hscope : ∀ command ∈ commands, command.InScope)
    (hids : Catalog.Within t.entryAt? k) (hk : 0 ≤ k) (hroom : spent ∨ k + commands.length ≤ maxRowId) :
    Catalog.Run spent t.entryAt? commands (t.performAll drawn commands).1 (t.performAll drawn commands).2.entryAt?
      ∧ Catalog.Within (t.performAll drawn commands).2.entryAt? (k + commands.length) := by
  induction commands generalizing t drawn k with
  | nil =>
      refine ⟨Catalog.Run.nil, ?_⟩
      rw [List.length_nil, Int.natCast_zero, add_zero]
      exact hids
  | cons command rest ih =>
      rw [List.forall_mem_cons] at hscope
      rw [List.length_cons] at hroom ⊢
      have hspent : Catalog.IsSpent t.entryAt? → spent := by
        rintro ⟨last, hlast⟩
        have hle := (hids maxRowId last hlast).2
        exact hroom.resolve_right (by omega)
      have hstep := perform_step (drawn 0) t hspent hscope.1
      obtain ⟨hrun, hafter⟩ := ih (t.perform (drawn 0) command).2 (fun i => drawn (i + 1)) hscope.2
        (hstep.within hids hk) (by omega) (hroom.imp_right (by omega))
      refine ⟨Catalog.Run.cons hstep hrun, ?_⟩
      have hlength : k + ((rest.length + 1 : Nat) : Int) = k + 1 + rest.length := by omega
      rw [hlength]
      exact hafter

/-- A session from the table without rows is a session on a catalog, in which the largest id is not taken unless there
are more commands than ids.  The ids of its rows are positive and pairwise distinct, and they do not run out; all
commands agree on every id; and the row that a command has added is found by the decimal text of its id, with the entry
that was last written to it, until it is removed. -/
theorem performAll_refines {drawn : Nat → List Int} {commands : List TableCommand}
    {outcomes : List (Except StoreError TableReply)} (hscope : ∀ command ∈ commands, command.InScope)
    (hsession : empty.performAll drawn commands = (outcomes, t)) :
    Catalog.Run (maxRowId < commands.length) (fun _ => none) commands outcomes t.entryAt?
      ∧ (commands.length ≤ maxRowId → .error .full ∉ outcomes)
      ∧ (t.rows.map Row.id).Nodup
      ∧ (∀ row ∈ t.rows, 1 ≤ row.id)
      ∧ (∀ id, t.AgreesOn id)
      ∧ ∀ earlier input later id, commands = earlier ++ .insert input :: later →
        outcomes[earlier.length]? = some (.ok (.added id)) →
        .ok (.removed id) ∉ outcomes.drop (earlier.length + 1) →
        ∃ entry, input.Provides entry
          ∧ t.lookup (.text (String.ofList (Text.signedDecimal id)))
            = .ok ⟨id, Catalog.lastWritten id entry (later.zip (outcomes.drop (earlier.length + 1)))⟩ := by
  have hroom : maxRowId < commands.length ∨ 0 + (commands.length : Int) ≤ maxRowId := by omega
  have hnone : Catalog.Within empty.entryAt? 0 := by
    intro n entry hn
    cases hn
  obtain ⟨hrun, hwithin⟩ := performAll_run empty drawn hscope hnone (le_refl 0) hroom
  rw [hsession] at hrun hwithin
  refine ⟨hrun, fun hlength => hrun.full_notMem (not_lt.2 hlength), ?_, ?_, t.agreesOn, ?_⟩
  · exact List.pairwise_map.2 (t.ascending.imp fun hlt => ne_of_lt hlt)
  · exact fun row hrow => (hwithin row.id row.entry (entryAt?_of_mem hrow)).1
  · rintro earlier input later id rfl hadded hkept
    obtain ⟨entry, hentry, hlast⟩ := hrun.entry_of_added hadded hkept
    exact ⟨entry, hentry, lookup_signedDecimal hlast⟩

/-- A row is replaced and moved, between commands that are refused and others that write to a second row, which
is removed and comes back. -/
theorem performAll_refines_rewrittenRow :
    let later : List TableCommand :=
      [.insert { title := .text "read" }, .update (.text "01") (.ofEntry ⟨"20240127", "plants", "all", "d 3"⟩),
        .update (.text "1") { title := .null }, .reschedule (.text "1") (.text "20240130"),
        .reschedule (.text "2") .composite, .delete (.text "+2"), .delete (.text "2"), .lookup (.text " "),
        .insert { title := .text "rest" }]
    ∃ t, empty.performAll (fun _ => [])
          (.insert { date := .text "20240126", title := .text "water", rule := .null } :: later)
        = ([.ok (.added 1), .ok (.added 2), .ok (.row ⟨1, "20240127", "plants", "all", "d 3"⟩),
            .error .missingField, .ok (.row ⟨1, "20240130", "plants", "all", "d 3"⟩), .error .unstorable,
            .ok (.removed 2), .error .notFound, .error .emptyId, .ok (.added 2)], t)
      ∧ t.lookup (.text "1") = .ok ⟨1, "20240130", "plants", "all", "d 3"⟩ := by
  intro later
  refine ⟨_, rfl, ?_⟩
  obtain ⟨-, -, -, -, -, hfound⟩ := performAll_refines (by decide +kernel)
    (rfl : empty.performAll (fun _ => [])
      (.insert { date := .text "20240126", title := .text "water", rule := .null } :: later) = _)
  obtain ⟨entry, -, hlookup⟩ := hfound [] _ later 1 rfl rfl (by decide)
  -- The last write to the row leaves nothing of the entry that it was added with.
  exact hlookup

end Table
end Agenda
