import Agenda.Proofs.Calendar.TextOrder
import Agenda.Proofs.Server.Orderly
import Agenda.Proofs.Store.Listing
/-!
# Listings of tables that requests alone fill

Rows are listed by their date texts.  In a table that requests have written on days of year 1000 or later, this
is the order of time.

* `Row.NotLater` — the date of a row is not after that of another one.
* `Table.InOrder.chronological` — a table in order is listed in the order of time.
* `Server.steps_listing` — what is listed in every table, and in which order in those that a run goes through.
-/

namespace Agenda

/-- Both rows have compact date texts, and the date of the first row is not after that of the second one. -/
def Row.NotLater (a b : Row) : Prop :=
  ∃ d e, Compact.IsDateText a.entry.date d ∧ Compact.IsDateText b.entry.date e ∧ d ≤ e

/-- Rows that come one before the other by their date texts do so by their dates. -/
theorem Row.Before.notLater {a b : Row} (hbefore : a.Before b) (ha : a.entry.InOrder)
    (hb : b.entry.InOrder) : a.NotLater b := by
  obtain ⟨d, hd⟩ := ha.date
  obtain ⟨e, he⟩ := hb.date
  refine ⟨d, e, hd, he, ?_⟩
  rcases hbefore with hlt | ⟨heq, -⟩
  · rw [String.lt_iff_toList_lt, hd.denotes.lt_iff he.denotes] at hlt
    exact Nat.le_of_lt hlt
  · have hdenotes := hd.denotes
    rw [heq] at hdenotes
    obtain rfl := hdenotes.unique he.denotes
    exact Nat.le_refl d.dayNumber

namespace Table

variable {t : Table} {search : String} {limit : Int} {rows : List Row}

/-- Whatever is listed is in the order of a listing, also when the limit cuts it off. -/
theorem pairwise_of_list (h : t.list limit search = .ok rows) : rows.Pairwise Row.Before := by
  rw [rows_of_list h]
  have hall : cutTo limit (byDate (t.rows.filter fun r => (Query.ofSearch search).selects r.entry))
      <+: cutTo (-1) (byDate (t.rows.filter fun r => (Query.ofSearch search).selects r.entry)) :=
    cutTo_isPrefix (Or.inl (by decide)) _
  exact (isListing_byDate t search).ordered.sublist hall.sublist

/-- A table in order is listed in the order of time. -/
theorem InOrder.chronological (ht : t.InOrder) (h : t.list limit search = .ok rows) :
    rows.Pairwise Row.NotLater := by
  have hinOrder : ∀ row ∈ rows, row.entry.InOrder := fun row hrow => ht row (mem_of_list_eq_ok h row hrow)
  exact (pairwise_of_list h).imp_of_mem fun ha hb hbefore =>
    hbefore.notLater (hinOrder _ ha) (hinOrder _ hb)

end Table

namespace Server

/-- For every search text a table has one listing, and what is listed is its start up to the limit, or all of it
when the limit is negative; only a search text that is too long is refused, when there is a row to compare with
it.  Hence a smaller limit gives a prefix of what a larger one gives, where a negative limit counts as the largest.
In the tables that a run of requests goes through, on days of year 1000 or later, a row that is listed before
another one is never dated after it. -/
theorem steps_listing (config : ServerConfig) (attempts : Throttle) (requests : List (Moment × Request))
    (htimes : ∀ request ∈ requests, 1000 ≤ request.1.day.year) :
    (∀ (t : Table) (search : String), ∃ rows, t.IsListing search rows
      ∧ ∀ limit, fitsRow limit = true → t.list limit search
        = if IsTooLong search ∧ t.rows ≠ [] ∧ limit ≠ 0 then .error .patternTooLong
          else .ok (if limit < 0 then rows else rows.take limit.toNat))
    ∧ (∀ (t : Table) (search : String) (limit limit' : Int) (rows rows' : List Row),
      limit' < 0 ∨ (0 ≤ limit ∧ limit ≤ limit') → t.list limit search = .ok rows →
      t.list limit' search = .ok rows' → rows <+: rows')
    ∧ ∀ step ∈ steps config ⟨Table.empty, attempts⟩ requests, ∀ t ∈ [step.before.table, step.after.table],
      ∀ limit search rows, t.list limit search = .ok rows → rows.Pairwise Row.NotLater := by
  refine ⟨?_, fun t search limit limit' rows rows' => Table.list_prefix, ?_⟩
  · intro t search
    exact ⟨_, t.isListing_byDate search, fun limit hlimit => t.list_eq search hlimit⟩
  · intro step hstep t ht limit search rows hrows
    obtain ⟨hbefore, htoday, heffect⟩ := inOrder_of_mem_steps htimes hstep
    have hafter := heffect.inOrder htoday hbefore
    have hinOrder : t.InOrder := by
      rcases List.mem_cons.1 ht with rfl | ht
      · exact hbefore
      · rw [List.mem_singleton.1 ht]
        exact hafter
    exact hinOrder.chronological hrows

/-- Two tasks are added, the later one first, and then listed. -/
theorem steps_listing_twoTasks :
    let now := Moment.midnight ⟨2024, 1, 26, by decide⟩
    let config : ServerConfig := { settings := {} }
    let add : String → Request := fun body =>
      { method := "POST", path := "/api/task", contentType := some "application/json",
        payload := .announced (Text.utf8 body) }
    let late := add "\x7b\"title\":\"water\",\"date\":\"20240301\"\x7d"
    let early := add "\x7b\"title\":\"tea\",\"date\":\"20240131\"\x7d"
    let step := Step.take config (respond config now initial late).2 now early
    let rows : List Row := [⟨2, ⟨"20240131", "tea", "", ""⟩⟩, ⟨1, ⟨"20240301", "water", "", ""⟩⟩]
    step.after.table.list (-1) "" = .ok rows
      ∧ step.after.table.list 1 "" = .ok (rows.take 1) ∧ rows.take 1 <+: rows
      ∧ rows.Pairwise Row.NotLater := by
  intro now config add late early step rows
  have htimes : ∀ request ∈ [(now, late), (now, early)], 1000 ≤ request.1.day.year := by decide
  have hstep : step ∈ steps config ⟨Table.empty, Throttle.empty⟩ [(now, late), (now, early)] :=
    List.mem_cons_of_mem _ (List.mem_singleton.2 rfl)
  have hselected : (step.after.table.rows.filter fun r => (Query.ofSearch "").selects r.entry)
      = [⟨1, ⟨"20240301", "water", "", ""⟩⟩, ⟨2, ⟨"20240131", "tea", "", ""⟩⟩] := by
    decide +kernel
  have hpair : ∀ a b : Row, byDate [a, b] = if a.precedes b then [a, b] else [b, a] := by
    intro a b
    simp [byDate, List.mergeSort, List.MergeSort.Internal.splitInTwo, List.merge]
  have hsorted : byDate [⟨1, ⟨"20240301", "water", "", ""⟩⟩, ⟨2, ⟨"20240131", "tea", "", ""⟩⟩] = rows :=
    (hpair _ _).trans (by decide +kernel)
  have hlist : ∀ limit, fitsRow limit = true → step.after.table.list limit "" = .ok (cutTo limit rows) := by
    intro limit hlimit
    rw [Table.list_eq _ _ hlimit, if_neg fun hlong => hlong.1.1 rfl, hselected, hsorted]
  have hall : step.after.table.list (-1) "" = .ok rows := hlist (-1) (by decide)
  have hone : step.after.table.list 1 "" = .ok (rows.take 1) := hlist 1 (by decide)
  obtain ⟨-, hprefix, hchronological⟩ := steps_listing config Throttle.empty _ htimes
  exact ⟨hall, hone, hprefix _ "" 1 (-1) _ _ (Or.inl (by decide)) hone hall,
    hchronological step hstep _ (by simp) (-1) "" rows hall⟩

end Server
end Agenda
