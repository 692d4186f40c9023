import Agenda.Entry
/-!
# The table of entries

Entries under ids, kept in the order of their ids.

* `Table` — the rows; ids are ascending and in range by construction, so that no two rows share one.
* `Table.find?` — the row with an id.
* `Table.freeId?` — the id of a new row.
* `Table.put`, `Table.add?` — put an entry under a given id, or under a free one.
* `Table.replace`, `Table.remove` — change the entry of a row, or drop the row.

The database chooses the ids of new rows as SQLite does for a primary key without `AUTOINCREMENT`: the id
after the largest one, so that the ids of removed last rows come back, and once the largest possible id is
taken a positive one that it draws at random.  What it draws is a parameter.
-/

namespace Agenda

structure Row where
  id : Int
  entry : Entry
deriving DecidableEq

/-- The largest id that a row can have. -/
def maxRowId : Int := 9223372036854775807

/-- Whether an integer fits in a signed 64-bit field. -/
def fitsRow (n : Int) : Bool :=
  -maxRowId - 1 ≤ n && n ≤ maxRowId

theorem fitsRow_iff {n : Int} : fitsRow n = true ↔ -maxRowId - 1 ≤ n ∧ n ≤ maxRowId := by
  simp [fitsRow]

/-- Rows in the order of their ids. -/
structure Table where
  rows : List Row
  ascending : rows.Pairwise fun a b => a.id < b.id
  inRange : ∀ r ∈ rows, fitsRow r.id = true
deriving DecidableEq

namespace Table

def empty : Table :=
  ⟨[], List.Pairwise.nil, by simp⟩

instance : Inhabited Table := ⟨empty⟩

def find? (t : Table) (id : Int) : Option Row :=
  t.rows.find? fun r => r.id == id

/-- The id after the largest one. -/
def nextId (t : Table) : Int :=
  match t.rows.getLast? with
  | some r => r.id + 1
  | none => 1

/-- The id of a new row: the one after the largest, as long as there is one, and else the first positive one
among the drawn ids that is not taken. -/
def freeId? (t : Table) (drawn : List Int) : Option Int :=
  if t.nextId ≤ maxRowId then some t.nextId
  else drawn.find? fun id => 1 ≤ id && id ≤ maxRowId && (t.find? id).isNone

theorem fitsRow_of_freeId? {t : Table} {drawn : List Int} {id : Int} (h : t.freeId? drawn = some id) :
    fitsRow id = true := by
  rw [fitsRow_iff]
  unfold freeId? at h
  split at h
  · next hle =>
      obtain rfl := Option.some.inj h
      refine ⟨?_, hle⟩
      unfold nextId
      cases hlast : t.rows.getLast? with
      | none => decide
      | some r =>
          have hlow := (fitsRow_iff.1 (t.inRange r (List.mem_of_getLast? hlast))).1
          exact Int.le_trans hlow (Int.le_of_lt (Int.lt_add_one_of_le (Int.le_refl r.id)))
  · have hdrawn := List.find?_some h
    simp only [Bool.and_eq_true, decide_eq_true_eq] at hdrawn
    exact ⟨Int.le_trans (by decide) hdrawn.1.1, hdrawn.1.2⟩

/-- Put an entry into the table under an id; an entry that is there gives way to it. -/
def put (t : Table) (id : Int) (entry : Entry) (hid : fitsRow id = true) : Table where
  rows := t.rows.filter (fun r => r.id < id) ++ ⟨id, entry⟩ :: t.rows.filter fun r => id < r.id
  ascending := by
    refine List.pairwise_append.2 ⟨t.ascending.sublist List.filter_sublist, ?_, ?_⟩
    · refine List.pairwise_cons.2 ⟨?_, t.ascending.sublist List.filter_sublist⟩
      intro b hb
      simpa using (List.mem_filter.1 hb).2
    · intro a ha b hb
      have hlow : a.id < id := by simpa using (List.mem_filter.1 ha).2
      rcases List.mem_cons.1 hb with rfl | hb
      · exact hlow
      · have hhigh : id < b.id := by simpa using (List.mem_filter.1 hb).2
        exact Int.lt_trans hlow hhigh
  inRange := by
    intro r hr
    rcases List.mem_append.1 hr with hlow | hrest
    · exact t.inRange r (List.mem_filter.1 hlow).1
    · rcases List.mem_cons.1 hrest with rfl | hhigh
      · exact hid
      · exact t.inRange r (List.mem_filter.1 hhigh).1

/-- Put an entry into the table under a free id; the result is the id and the table with it. -/
def add? (t : Table) (drawn : List Int) (entry : Entry) : Option (Int × Table) :=
  match hid : t.freeId? drawn with
  | some id => some (id, t.put id entry (fitsRow_of_freeId? hid))
  | none => none

/-- Change the entry of the row with the given id, if there is one. -/
def replace (t : Table) (id : Int) (change : Entry → Entry) : Table where
  rows := t.rows.map fun r => if r.id = id then { r with entry := change r.entry } else r
  ascending := by
    refine List.pairwise_map.2 (t.ascending.imp ?_)
    intro a b hab
    split <;> split <;> exact hab
  inRange := by
    intro r hr
    obtain ⟨old, hold, rfl⟩ := List.mem_map.1 hr
    have hrange := t.inRange old hold
    split <;> exact hrange

/-- Drop the row with the given id, if there is one. -/
def remove (t : Table) (id : Int) : Table where
  rows := t.rows.filter fun r => r.id != id
  ascending := t.ascending.sublist List.filter_sublist
  inRange := fun r hr => t.inRange r ((List.mem_filter.1 hr).1)

end Table
end Agenda
