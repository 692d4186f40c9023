import Agenda.Proofs.Calendar.DottedText
import Agenda.Proofs.Server.Listings
import Agenda.Proofs.Server.UnknownIds
/-!
# Searches for a date

A search names a date in dotted form, and rows keep theirs in compact form.  In a table that requests alone fill, on
days of year 1000 or later, the two forms meet: a search for a date gives the rows that are dated on it, and what
their titles and comments say does not matter.

* `Table.onDate` — the rows of a table that are dated on a day.
* `Table.InOrder.list_onDate` — a search for a date lists them, up to the limit.
* `Server.Reached`, `Server.Reached.inOrder` — the tables that requests alone fill, and that they are in order.
* `Request.SearchesDate` — the request asks for the tasks of a date.
* `Server.respond_dateSearch` — when a text is read as a date, and what a request that asks for one is answered.
-/

namespace Agenda

/-! ## Listings of a date -/

namespace Entry.InOrder

variable {entry : Entry} {d : Date}

/-- The date text of an entry in order is the one that is written for a date exactly when it is read as this date. -/
theorem date_eq_write_iff (hentry : entry.InOrder) :
    entry.date = Compact.write d ↔ Compact.parse entry.date = .ok d := by
  obtain ⟨e, he⟩ := hentry.date
  have hread := he.read
  constructor
  · intro hdate
    rw [hdate] at hread ⊢
    -- The text of an early date is not read back, but that of the entry is.
    have hyear : 1000 ≤ d.year := by
      by_contra hearly
      rw [Compact.parse_write_early (by omega)] at hread
      cases hread
    exact Compact.parse_write hyear
  · intro hdated
    rw [hread] at hdated
    rw [← Except.ok.inj hdated, he.written]

/-- The dotted text of a date asks for the entries in order that are dated on it. -/
theorem answers_iff (hentry : entry.InOrder) {search : String} (hsearch : Dotted.parse? search = some d) :
    entry.Answers search ↔ Compact.parse entry.date = .ok d := by
  have hne : search ≠ "" := by
    rintro rfl
    cases hsearch
  rw [← hentry.date_eq_write_iff]
  simp [Answers, hne, hsearch]

end Entry.InOrder

namespace Table

variable {t : Table} {search : String} {limit : Int} {d : Date}

/-- The rows that are dated on a day, in the order of their ids. -/
def onDate (t : Table) (d : Date) : List Row :=
  t.rows.filter fun row => Compact.parse row.entry.date = .ok d

/-- Rows with one date text are in the order of a listing as they stand. -/
theorem byDate_onDate {text : String} (hrows : ∀ row ∈ t.onDate d, row.entry.date = text) :
    byDate (t.onDate d) = t.onDate d := by
  have hascending : (t.onDate d).Pairwise fun a b => a.id < b.id := t.ascending.sublist List.filter_sublist
  refine List.mergeSort_of_pairwise (hascending.imp_of_mem ?_)
  intro a b ha hb hlt
  have hsame : a.entry.date = b.entry.date := (hrows a ha).trans (hrows b hb).symm
  simp [Row.precedes, hsame, le_of_lt hlt]

theorem fitsRow_iff_of_nonneg (hnonneg : 0 ≤ limit) : fitsRow limit = true ↔ limit ≤ maxRowId := by
  rw [fitsRow_iff]
  exact and_iff_right (le_trans (by decide) hnonneg)

/-- The rows that are selected by a search for a date are those that are dated on it. -/
theorem InOrder.filter_selects (ht : t.InOrder) (hsearch : Dotted.parse? search = some d) :
    (t.rows.filter fun r => (Query.ofSearch search).selects r.entry) = t.onDate d := by
  apply List.filter_congr
  intro row hrow
  rw [Bool.eq_iff_iff, Query.selects_ofSearch_iff, (ht row hrow).answers_iff hsearch, decide_eq_true_iff]

theorem InOrder.date_of_mem_onDate (ht : t.InOrder) {row : Row} (hrow : row ∈ t.onDate d) :
    row.entry.date = Compact.write d := by
  obtain ⟨hmem, hdated⟩ := List.mem_filter.1 hrow
  exact (ht row hmem).date_eq_write_iff.2 (of_decide_eq_true hdated)

/-- A search for a date lists the rows that are dated on it, up to a limit, which must fit in its field. -/
theorem InOrder.list_onDate (ht : t.InOrder) (hsearch : Dotted.parse? search = some d) (hnonneg : 0 ≤ limit) :
    t.list limit search
      = if limit ≤ maxRowId then .ok ((t.onDate d).take limit.toNat) else .error .numberTooLarge := by
  by_cases hlimit : limit ≤ maxRowId
  · have hnotLong : ¬ IsTooLong search := by
      rintro ⟨-, hnone, -⟩
      rw [hnone] at hsearch
      cases hsearch
    rw [if_pos hlimit, t.list_eq search ((fitsRow_iff_of_nonneg hnonneg).2 hlimit),
      if_neg fun hrefused => hnotLong hrefused.1, ht.filter_selects hsearch,
      byDate_onDate fun row hrow => ht.date_of_mem_onDate hrow, cutTo, if_neg (by omega)]
  · rw [if_neg hlimit]
    exact if_pos (mt (fitsRow_iff_of_nonneg hnonneg).1 hlimit)

end Table

/-! ## Requests -/

/-- The request asks for the tasks of a date: its search text is the dotted text of the date, with blanks around it or
without. -/
structure Request.SearchesDate (r : Request) (d : Date) : Prop where
  reaches : r.Reaches .listTasks
  padded : ∃ front back, (r.parameter "search").toList = front ++ ((Dotted.write d).toList ++ back)
    ∧ (∀ c ∈ front, Text.isBlank c = true) ∧ ∀ c ∈ back, Text.isBlank c = true

theorem Request.SearchesDate.parse?_trimmed {r : Request} {d : Date} (h : r.SearchesDate d) :
    Dotted.parse? (Text.trimmed (r.parameter "search")) = some d := by
  obtain ⟨front, back, hsplit, hfront, hback⟩ := h.padded
  have htrim := Text.trim_of_blanks_around (Dotted.denotes_write d).trim_eq hfront hback
  rw [Text.trimmed, hsplit, htrim, String.ofList_toList, Dotted.parse?_write]

namespace Server

/-- The tables that requests alone fill, on days of year 1000 or later.  The settings and the attempts to sign in may be
others at each request. -/
inductive Reached : Table → Prop
  | empty : Reached Table.empty
  | next {s : ServerState} (hs : Reached s.table) (config : ServerConfig) {now : Moment} (r : Request)
      (hnow : 1000 ≤ now.day.year) : Reached (respond config now s r).2.table

/-- Every table that requests alone fill is in order, because none of them spoils it. -/
theorem Reached.inOrder {t : Table} (h : Reached t) : t.InOrder := by
  induction h with
  | empty => exact Table.inOrder_empty
  | @next s _ config now r hnow ih => exact (respond_effect config now s r).inOrder hnow ih

/-- A date is read exactly from the texts that denote it: two, two and four digits with dots between them.

In a table that requests alone fill, on days of year 1000 or later, a request for the tasks of a date is answered by the
rows that are dated on it, up to the limit, whatever their titles and comments are.  Only a limit beyond 64 bits makes
the server fail. -/
theorem respond_dateSearch :
    (∀ text d, Dotted.parse? text = some d ↔ Dotted.Denotes text.toList d)
    ∧ ∀ (config : ServerConfig) (now : Moment) (s : ServerState) (r : Request) (d : Date), Reached s.table →
      r.SearchesDate d → r.Passes config.settings.maxUploadSize →
      (config.settings.password = "" ∨ r.Admitted config.settings now) → 0 ≤ config.settings.tasksLimit →
      respond config now s r
        = (if config.settings.tasksLimit ≤ maxRowId then
            Response.json 200 (Json.ofFields [("tasks",
              .array (((s.table.onDate d).take config.settings.tasksLimit.toNat).map rowJson))])
          else Response.error 500 "internal server error", s) := by
  refine ⟨fun text d => Dotted.parse?_eq_some_iff, ?_⟩
  intro config now s r d hreached hsearches hpasses hgate hnonneg
  have hlist := hreached.inOrder.list_onDate hsearches.parse?_trimmed hnonneg
  rw [respond_of_reaches hpasses hgate hsearches.reaches rfl]
  simp only [serve, listTasks, hlist]
  by_cases hlimit : config.settings.tasksLimit ≤ maxRowId
  · simp only [if_pos hlimit]
  · simp only [if_neg hlimit]
    rfl

/-- A task of another day has the text of a date as its title, and two tasks are due on this date.  A search for it
gives the first of the two. -/
theorem respond_dateSearch_padded :
    let now := Moment.midnight ⟨2024, 1, 26, by decide⟩
    let config : ServerConfig := { settings := { tasksLimit := 1 } }
    let add : String → Request := fun body =>
      { method := "POST", path := "/api/task", contentType := some "application/json",
        payload := .announced (Text.utf8 body) }
    let first := (respond config now initial (add "\x7b\"title\":\"29.02.2024\"\x7d")).2
    let second := (respond config now first (add "\x7b\"title\":\"tea\",\"date\":\"20240229\"\x7d")).2
    let third := (respond config now second (add "\x7b\"title\":\"water\",\"date\":\"20240229\"\x7d")).2
    let search : Request :=
      { method := "GET", path := "/api/tasks", query := [("search", "\t29.02.2024\u3000")] }
    let tea : Row := ⟨2, ⟨"20240229", "tea", "", ""⟩⟩
    let water : Row := ⟨3, ⟨"20240229", "water", "", ""⟩⟩
    (third.table.rows.length = 3 ∧ third.table.onDate ⟨2024, 2, 29, by decide⟩ = [tea, water])
      ∧ respond config now third search
        = (Response.json 200 (Json.ofFields [("tasks", .array [rowJson tea])]), third) := by
  intro now config add first second third search tea water
  have hnow : 1000 ≤ now.day.year := by decide
  have hfirst : Reached first.table := .next .empty config _ hnow
  have hsecond : Reached second.table := .next hfirst config _ hnow
  have hthird : Reached third.table := .next hsecond config _ hnow
  have hsearches : search.SearchesDate ⟨2024, 2, 29, by decide⟩ :=
    ⟨⟨by decide, by decide⟩, ['\t'], ['\u3000'], by decide +kernel, List.forall_mem_singleton.2 rfl,
      List.forall_mem_singleton.2 rfl⟩
  have hpasses : search.Passes config.settings.maxUploadSize :=
    Request.passes_of_content_eq_nil rfl (by decide)
  have honDate : third.table.onDate ⟨2024, 2, 29, by decide⟩ = [tea, water] := by decide +kernel
  have hanswer := respond_dateSearch.2 config now third search _ hthird hsearches hpasses (Or.inl rfl) (by decide)
  have hlimit : config.settings.tasksLimit ≤ maxRowId := by decide
  rw [if_pos hlimit, honDate] at hanswer
  exact ⟨⟨by decide +kernel, honDate⟩, hanswer⟩

/-- No listing is the answer when the limit is beyond 64 bits, when there is a password and the request carries no
token, or when every body is too large, even an empty one. -/
theorem respond_dateSearch_unanswered :
    let now := Moment.midnight ⟨2024, 1, 26, by decide⟩
    let search : Request := { method := "GET", path := "/api/tasks", query := [("search", "26.01.2024")] }
    let status : Settings → Nat := fun settings => (respond { settings := settings } now initial search).1.status
    (Reached initial.table ∧ search.SearchesDate now.day)
      ∧ status { tasksLimit := 9223372036854775808 } = 500
      ∧ status { password := "s3cret", secretKey := "signing-key-for-tests-0123456789abcdef" } = 401
      ∧ status { maxUploadSize := -1 } = 413 := by
  intro now search status
  have hsearches : search.SearchesDate now.day :=
    ⟨⟨by decide, by decide⟩, [], [], by decide +kernel, by simp, by simp⟩
  exact ⟨⟨.empty, hsearches⟩, by decide +kernel, by decide +kernel, by decide +kernel⟩

end Server
end Agenda
