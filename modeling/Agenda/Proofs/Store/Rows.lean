import Agenda.Store.Table
import Mathlib.Data.List.Nodup
import Mathlib.Data.List.Sort
/-!
# The entries of a table

A table seen as a finite map from ids to entries.  What the operations on a table do is said by this map
alone, which determines the table.

* `Table.entryAt?` — the entry under an id.
* `Table.ext_entryAt?` — two tables with the same entries are equal.
* `Table.ChangesOnly` — two tables that differ at most at one id; `Table.changesOnly_of_rows` — the same said
  of the rows.
* `Table.freeId?_cases` — where the id of a new row comes from.
* `Table.changesOnly_add`, `Table.changesOnly_replace`, `Table.changesOnly_remove` — what the operations
  change.
-/

namespace Agenda
namespace Table

/-- The entry under an id. -/
def entryAt? (t : Table) (n : Int) : Option Entry :=
  (t.find? n).map Row.entry

/-- The table `t'` has the entry `entry` under the id `n`, or none if there is none, and it agrees with `t`
under every other id. -/
def ChangesOnly (t t' : Table) (n : Int) (entry : Option Entry) : Prop :=
  ∀ m, t'.entryAt? m = if m = n then entry else t.entryAt? m

variable {t t' : Table} {n : Int} {r : Row} {e : Entry}

/-- No two rows of a table share an id. -/
theorem eq_of_id_eq {r' : Row} (hr : r ∈ t.rows) (hr' : r' ∈ t.rows) (hid : r.id = r'.id) : r = r' := by
  have hnodup : (t.rows.map Row.id).Nodup :=
    List.pairwise_map.2 (t.ascending.imp fun hlt => ne_of_lt hlt)
  exact List.inj_on_of_nodup_map hnodup hr hr' hid

theorem find?_eq_some_iff : t.find? n = some r ↔ r ∈ t.rows ∧ r.id = n := by
  unfold find?
  constructor
  · intro hfind
    exact ⟨List.mem_of_find?_eq_some hfind, by simpa using List.find?_some hfind⟩
  · rintro ⟨hr, hid⟩
    cases hfind : t.rows.find? fun x => x.id == n with
    | none =>
        have hnone := List.find?_eq_none.1 hfind r hr
        simp [hid] at hnone
    | some r' =>
        have hid' : r'.id = n := by simpa using List.find?_some hfind
        rw [eq_of_id_eq (List.mem_of_find?_eq_some hfind) hr (hid'.trans hid.symm)]

/-- An entry stands under an id exactly when it is that of the row with the id. -/
theorem entryAt?_eq_some_iff : t.entryAt? n = some e ↔ ∃ r ∈ t.rows, r.id = n ∧ r.entry = e := by
  unfold entryAt?
  rw [Option.map_eq_some_iff]
  constructor
  · rintro ⟨r, hfind, hentry⟩
    have hrow := find?_eq_some_iff.1 hfind
    exact ⟨r, hrow.1, hrow.2, hentry⟩
  · rintro ⟨r, hr, hid, hentry⟩
    exact ⟨r, find?_eq_some_iff.2 ⟨hr, hid⟩, hentry⟩

theorem entryAt?_of_mem (hr : r ∈ t.rows) : t.entryAt? r.id = some r.entry :=
  entryAt?_eq_some_iff.2 ⟨r, hr, rfl, rfl⟩

/-- A row belongs to a table exactly when its entry stands under its id. -/
theorem mem_rows_iff : r ∈ t.rows ↔ t.entryAt? r.id = some r.entry := by
  constructor
  · exact entryAt?_of_mem
  · intro hentry
    obtain ⟨r', hr', hid, hentry'⟩ := entryAt?_eq_some_iff.1 hentry
    have hsame : r' = r := by
      cases r
      cases r'
      rw [Row.mk.injEq]
      exact ⟨hid, hentry'⟩
    exact hsame ▸ hr'

/-- The entries under all ids determine a table. -/
theorem ext_entryAt? (h : ∀ n, t.entryAt? n = t'.entryAt? n) : t = t' := by
  have hmem : ∀ r, r ∈ t.rows ↔ r ∈ t'.rows := by
    intro r
    rw [mem_rows_iff, mem_rows_iff, h]
  have hdistinct : ∀ {a b : Row}, a.id < b.id → a ≠ b := by
    rintro a _ hlt rfl
    exact lt_irrefl a.id hlt
  have hperm : t.rows.Perm t'.rows :=
    (List.perm_ext_iff_of_nodup (t.ascending.imp hdistinct) (t'.ascending.imp hdistinct)).2 hmem
  have hrows : t.rows = t'.rows := by
    apply hperm.eq_of_pairwise ?_ t.ascending t'.ascending
    intro a b _ _ hab hba
    omega
  cases t
  cases t'
  simp_all

/-- The entry that a change brings in. -/
theorem ChangesOnly.entryAt?_self {entry : Option Entry} (hchange : t.ChangesOnly t' n entry) :
    t'.entryAt? n = entry := by
  rw [hchange n, if_pos rfl]

/-- A change at one id, said of the rows: those with this id have the new entry, and all others are the old
ones. -/
theorem changesOnly_of_rows {id : Int} {entry : Option Entry}
    (hrows : ∀ r : Row, r ∈ t'.rows ↔ if r.id = id then entry = some r.entry else r ∈ t.rows) :
    t.ChangesOnly t' id entry := by
  intro m
  ext e'
  rw [entryAt?_eq_some_iff]
  by_cases hm : m = id
  · subst hm
    rw [if_pos rfl]
    constructor
    · rintro ⟨r, hr, hid, rfl⟩
      have hentry := (hrows r).1 hr
      rwa [if_pos hid] at hentry
    · intro hentry
      exact ⟨⟨m, e'⟩, (hrows _).2 (by rwa [if_pos rfl]), rfl, rfl⟩
  · rw [if_neg hm, entryAt?_eq_some_iff]
    have hother : ∀ r : Row, r.id = m → (r ∈ t'.rows ↔ r ∈ t.rows) := by
      intro r hid
      rw [hrows r, if_neg]
      rintro rfl
      exact hm hid.symm
    constructor
    · rintro ⟨r, hr, hid, hentry⟩
      exact ⟨r, (hother r hid).1 hr, hid, hentry⟩
    · rintro ⟨r, hr, hid, hentry⟩
      exact ⟨r, (hother r hid).2 hr, hid, hentry⟩

/-! ## The operations -/

/-- The next id is above all ids of the table. -/
theorem id_lt_nextId (hr : r ∈ t.rows) : r.id < t.nextId := by
  have hne : t.rows ≠ [] := List.ne_nil_of_mem hr
  have hlast : t.rows.getLast? = some (t.rows.getLast hne) := List.getLast?_eq_some_getLast hne
  have hle : r.id ≤ (t.rows.getLast hne).id := by
    have hascending := t.ascending
    rw [← List.dropLast_append_getLast hne] at hr hascending
    rcases List.mem_append.1 hr with hbefore | hself
    · exact le_of_lt ((List.pairwise_append.1 hascending).2.2 r hbefore _ (List.mem_singleton.2 rfl))
    · exact le_of_eq (congrArg Row.id (List.mem_singleton.1 hself))
  unfold nextId
  rw [hlast]
  exact Int.lt_add_one_of_le hle

/-- No row has an id beyond the largest one. -/
theorem entryAt?_of_nextId_le (hn : t.nextId ≤ n) : t.entryAt? n = none := by
  rw [Option.eq_none_iff_forall_not_mem]
  intro e he
  obtain ⟨r, hr, rfl, -⟩ := entryAt?_eq_some_iff.1 he
  exact absurd (id_lt_nextId hr) (not_lt.2 hn)

/-- The id after the largest one is given to a new row as long as it is an id, and after that one that is drawn:
a positive id that no row has. -/
theorem freeId?_cases {drawn : List Int} {id : Int} (h : t.freeId? drawn = some id) :
    t.entryAt? id = none
      ∧ (id = t.nextId ∨ (maxRowId < t.nextId ∧ id ∈ drawn ∧ 1 ≤ id ∧ id ≤ maxRowId)) := by
  unfold freeId? at h
  split at h
  · obtain rfl := Option.some.inj h
    exact ⟨entryAt?_of_nextId_le (le_refl t.nextId), Or.inl rfl⟩
  · next hspent =>
      have hdrawn := List.find?_some h
      simp only [Bool.and_eq_true, decide_eq_true_eq, Option.isNone_iff_eq_none] at hdrawn
      obtain ⟨⟨hpositive, hle⟩, hfree⟩ := hdrawn
      refine ⟨?_, Or.inr ⟨not_le.1 hspent, List.mem_of_find?_eq_some h, hpositive, hle⟩⟩
      rw [entryAt?, hfree]
      rfl

theorem add?_eq_some_iff {drawn : List Int} {id : Int} : t.add? drawn e = some (id, t')
    ↔ ∃ hid : t.freeId? drawn = some id, t' = t.put id e (fitsRow_of_freeId? hid) := by
  unfold add?
  constructor
  · intro h
    split at h
    · next hid =>
        obtain ⟨rfl, rfl⟩ := Prod.mk.inj (Option.some.inj h)
        exact ⟨hid, rfl⟩
    · cases h
  · rintro ⟨hid, rfl⟩
    split
    · next hid' =>
        obtain rfl := Option.some.inj (hid'.symm.trans hid)
        rfl
    · next hnone => cases hnone.symm.trans hid

/-- Putting an entry into the table changes it under the id only. -/
theorem changesOnly_put (t : Table) {id : Int} (e : Entry) (hid : fitsRow id = true) :
    t.ChangesOnly (t.put id e hid) id (some e) := by
  apply changesOnly_of_rows
  rintro ⟨id', entry⟩
  simp only [put, List.mem_append, List.mem_cons, List.mem_filter, decide_eq_true_eq, Row.mk.injEq,
    Option.some.injEq]
  rcases lt_trichotomy id' id with hlt | rfl | hlt
  · simp [hlt, ne_of_lt hlt, not_lt_of_gt hlt]
  · simp [eq_comm]
  · simp [hlt, ne_of_gt hlt, not_lt_of_gt hlt]

/-- Adding an entry changes the table under the new id only. -/
theorem changesOnly_add {drawn : List Int} {id : Int} (hadd : t.add? drawn e = some (id, t')) :
    t.entryAt? id = none ∧ t.ChangesOnly t' id (some e) := by
  obtain ⟨hid, rfl⟩ := add?_eq_some_iff.1 hadd
  exact ⟨(freeId?_cases hid).1, changesOnly_put t e _⟩

/-- Replacing an entry changes the table under the id of the row only. -/
theorem changesOnly_replace (t : Table) (id : Int) (change : Entry → Entry) :
    t.ChangesOnly (t.replace id change) id ((t.entryAt? id).map change) := by
  apply changesOnly_of_rows
  intro r
  simp only [replace, List.mem_map]
  constructor
  · rintro ⟨old, hold, rfl⟩
    -- The id of a row stays the same.
    by_cases hid : old.id = id
    · subst hid
      simp [entryAt?_of_mem hold]
    · rw [if_neg hid, if_neg hid]
      exact hold
  · intro hr
    by_cases hid : r.id = id
    · rw [if_pos hid, Option.map_eq_some_iff] at hr
      obtain ⟨e, he, hentry⟩ := hr
      obtain ⟨old, hold, hid', rfl⟩ := entryAt?_eq_some_iff.1 he
      refine ⟨old, hold, ?_⟩
      rw [if_pos hid', hentry, hid'.trans hid.symm]
    · rw [if_neg hid] at hr
      exact ⟨r, hr, if_neg hid⟩

/-- The entry of a row of the table gives way to the changed one. -/
theorem changesOnly_replace_of_mem (hr : r ∈ t.rows) (change : Entry → Entry) :
    t.ChangesOnly (t.replace r.id change) r.id (some (change r.entry)) := by
  have hchange := changesOnly_replace t r.id change
  rwa [entryAt?_of_mem hr] at hchange

/-- Removing a row changes the table under its id only. -/
theorem changesOnly_remove (t : Table) (id : Int) : t.ChangesOnly (t.remove id) id none := by
  apply changesOnly_of_rows
  intro r
  by_cases hid : r.id = id
  · simp [remove, hid]
  · simp [remove, hid]

end Table
end Agenda
