import Agenda.Proofs.Store.Rows
import Agenda.Proofs.Text.Wildcards
import Agenda.Store.Command
import Mathlib.Data.Prod.Lex
import Mathlib.Data.String.Basic
/-!
# Listings of the table

What a listing holds and in which order, said without the search and the sorting that make it.

* `Entry.Answers` — an entry is one that a search text asks for.
* `Row.Before` — rows by date text, and rows of one date by id.
* `Row.IsListing` — the rows that a search text asks for, each once, in this order; `Table.IsListing` — those of a
  table.
* `Table.isListing_byDate` — there is such a listing.
* `Table.list_eq` — what is listed is this listing, up to the limit, unless the search text is too long.
* `Table.list_prefix` — a smaller limit cuts off more of the same listing.
-/

namespace Agenda

/-! ## What a search text asks for -/

namespace Wildcard

/-- The pattern of the texts in which the word occurs matches the text, each up to its first NUL. -/
def Finds (word text : String) : Prop :=
  Matches (untilNul (containing word.toList)) (untilNul text.toList)

end Wildcard

/-- The entry is one that a search text asks for.  The empty text asks for every entry, a dotted date for the
entries of this date, and any other text for those in whose title or comment it is found. -/
def Entry.Answers (search : String) (entry : Entry) : Prop :=
  search = ""
    ∨ (∃ d, Dotted.parse? search = some d ∧ entry.date = Compact.write d)
    ∨ (Dotted.parse? search = none
      ∧ (Wildcard.Finds search entry.title ∨ Wildcard.Finds search entry.comment))

/-- The search text is no date, and its pattern is too long to be matched: it takes two bytes more. -/
def IsTooLong (search : String) : Prop :=
  search ≠ "" ∧ Dotted.parse? search = none ∧ maxPatternBytes < (Text.utf8 search).length + 2

instance : DecidablePred IsTooLong := fun _ => inferInstanceAs (Decidable (_ ∧ _ ∧ _))

namespace Query

theorem selects_ofSearch_iff {search : String} {entry : Entry} :
    (ofSearch search).selects entry = true ↔ entry.Answers search := by
  unfold ofSearch Entry.Answers
  by_cases hempty : search = ""
  · simp [hempty, selects]
  · rw [if_neg hempty]
    cases hdate : Dotted.parse? search with
    | some d => simp [hempty, selects]
    | none => simp [hempty, selects, Wildcard.accepts_iff, Wildcard.Finds]

theorem tooLong_ofSearch_iff {search : String} : (ofSearch search).tooLong = true ↔ IsTooLong search := by
  have hpattern : (Text.utf8Chars (Wildcard.containing search.toList)).length
      = (Text.utf8 search).length + 2 := by
    have hpercent : String.utf8EncodeChar '%' = [37] := by decide
    simp only [Wildcard.containing, Text.utf8, Text.utf8Chars, List.flatMap_cons, List.flatMap_append,
      List.flatMap_nil, hpercent, List.length_append, List.length_cons, List.length_nil]
    omega
  unfold ofSearch IsTooLong
  by_cases hempty : search = ""
  · simp [hempty, tooLong]
  · rw [if_neg hempty]
    cases hdate : Dotted.parse? search with
    | some d => simp [tooLong]
    | none => simp [hempty, tooLong, hpattern]

end Query

/-! ## The order of the rows -/

/-- The row comes before another one in a listing: its date text is smaller, or it is the same and its id is. -/
def Row.Before (a b : Row) : Prop :=
  a.entry.date < b.entry.date ∨ (a.entry.date = b.entry.date ∧ a.id < b.id)

namespace Row

/-- The key of the row in the order of a listing. -/
def place (r : Row) : String ×ₗ Int :=
  toLex (r.entry.date, r.id)

theorem precedes_iff {a b : Row} : a.precedes b = true ↔ a.place ≤ b.place := by
  simp [precedes, place, Prod.Lex.toLex_le_toLex]

theorem before_iff {a b : Row} : a.Before b ↔ a.place < b.place := by
  rw [place, place, Prod.Lex.toLex_lt_toLex]
  rfl

/-- Among the held rows those whose entries a search text asks for: all of them, each once, by date text and among
rows of one date text by id. -/
structure IsListing (held : Row → Prop) (search : String) (rows : List Row) : Prop where
  complete : ∀ row, row ∈ rows ↔ held row ∧ row.entry.Answers search
  once : rows.Nodup
  ordered : rows.Pairwise Row.Before

end Row

theorem mem_byDate {rows : List Row} {r : Row} : r ∈ byDate rows ↔ r ∈ rows :=
  List.mem_mergeSort

/-- Rows of pairwise distinct ids are put in the order of their date texts, and rows of one date text in the order of
their ids. -/
theorem pairwise_byDate {rows : List Row} (hrows : (rows.map Row.id).Nodup) :
    (byDate rows).Pairwise Row.Before := by
  have hsorted : (byDate rows).Pairwise fun a b => a.precedes b = true := by
    apply List.pairwise_mergeSort
    · intro a b c hab hbc
      rw [Row.precedes_iff] at *
      exact le_trans hab hbc
    · intro a b
      rw [Bool.or_eq_true, Row.precedes_iff, Row.precedes_iff]
      exact le_total _ _
  have hdistinct : (byDate rows).Pairwise fun a b => a.id ≠ b.id :=
    List.pairwise_map.1 (((List.mergeSort_perm rows _).map Row.id).nodup_iff.2 hrows)
  refine (hsorted.and hdistinct).imp ?_
  rintro a b ⟨hle, hne⟩
  refine Row.before_iff.2 (lt_of_le_of_ne (Row.precedes_iff.1 hle) ?_)
  intro hplace
  exact hne (congrArg (fun key => (ofLex key).2) hplace)

namespace Table

/-! ## Listings -/

/-- The rows of the table that a search text asks for, in order. -/
def IsListing (t : Table) : String → List Row → Prop :=
  Row.IsListing (· ∈ t.rows)

variable {t : Table} {search : String}

/-- The rows that are selected and put in order are the listing. -/
theorem isListing_byDate (t : Table) (search : String) :
    t.IsListing search (byDate (t.rows.filter fun r => (Query.ofSearch search).selects r.entry)) := by
  have hids := ((t.ascending.sublist (List.filter_sublist
    (p := fun r => (Query.ofSearch search).selects r.entry))).imp fun hlt => ne_of_lt hlt)
  have hordered := pairwise_byDate (List.pairwise_map.2 hids)
  refine ⟨?_, ?_, hordered⟩
  · intro row
    rw [mem_byDate, List.mem_filter, Query.selects_ofSearch_iff]
  · refine hordered.imp ?_
    rintro a _ hbefore rfl
    exact lt_irrefl a.place (Row.before_iff.1 hbefore)

/-- What is listed up to a limit is the start of the listing, or all of it when the limit is negative, unless
the search text is too long and there is a row to compare with it. -/
theorem list_eq (t : Table) (search : String) {limit : Int} (hlimit : fitsRow limit = true) :
    t.list limit search
      = if IsTooLong search ∧ t.rows ≠ [] ∧ limit ≠ 0 then .error .patternTooLong
        else .ok (cutTo limit (byDate (t.rows.filter fun r => (Query.ofSearch search).selects r.entry))) := by
  unfold list
  simp only [hlimit, Query.tooLong_ofSearch_iff]
  rfl

theorem rows_of_list {limit : Int} {rows : List Row} (h : t.list limit search = .ok rows) :
    rows = cutTo limit (byDate (t.rows.filter fun r => (Query.ofSearch search).selects r.entry)) := by
  unfold list at h
  simp only at h
  split at h
  · cases h
  · split at h
    · cases h
    · exact (Except.ok.inj h).symm

/-- A smaller limit cuts off more of a list.  A negative limit cuts off nothing, as if it were the largest. -/
theorem cutTo_isPrefix {limit limit' : Int} (hlimit : limit' < 0 ∨ (0 ≤ limit ∧ limit ≤ limit'))
    (rows : List Row) : cutTo limit rows <+: cutTo limit' rows := by
  unfold cutTo
  by_cases hnegative' : limit' < 0
  · rw [if_pos hnegative']
    split
    · exact List.prefix_rfl
    · exact List.take_prefix _ rows
  · have hle : limit.toNat ≤ limit'.toNat := by omega
    rw [if_neg hnegative', if_neg (by omega)]
    exact List.take_prefix_take_left hle

/-- What is listed are rows of the table. -/
theorem mem_of_list_eq_ok {limit : Int} {rows : List Row} (h : t.list limit search = .ok rows) :
    ∀ row ∈ rows, row ∈ t.rows := by
  obtain rfl := rows_of_list h
  intro row hrow
  have hlisted := (cutTo_isPrefix (Or.inl (by decide : (-1 : Int) < 0)) _).subset hrow
  exact (((t.isListing_byDate search).complete row).1 hlisted).1

/-- The list for a smaller limit is a prefix of the list for a larger one. -/
theorem list_prefix {limit limit' : Int} {rows rows' : List Row}
    (hlimit : limit' < 0 ∨ (0 ≤ limit ∧ limit ≤ limit')) (hrows : t.list limit search = .ok rows)
    (hrows' : t.list limit' search = .ok rows') : rows <+: rows' := by
  rw [rows_of_list hrows, rows_of_list hrows']
  exact cutTo_isPrefix hlimit _

end Table
end Agenda
