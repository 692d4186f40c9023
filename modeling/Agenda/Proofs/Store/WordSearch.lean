import Agenda.Proofs.Calendar.DottedText
import Agenda.Proofs.Store.Listing
import Agenda.Proofs.Text.Occurrences
/-!
# Searching for a word

A search text that is no date is looked for as a word in the titles and the comments of the entries.  Its
characters go into a pattern as they are, wildcards as well.

* `Entry.Holds` — the word occurs in the title or in the comment.
* `AsksForWord` — the search texts that are looked for as words.
* `Entry.answers_of_holds`, `Entry.holds_of_answers` — what is found is where the word occurs.
* `Table.list_word` — no entry with the word is missed, and without wildcards in it no other entry is listed.
* `Table.list_word_inexact` — two noncharacters are found in the place of the replacement character.
-/

namespace Agenda

/-- The word occurs in the title or in the comment of the entry, up to a relation between characters. -/
def Entry.Holds (alike : Char → Char → Prop) (word : String) (entry : Entry) : Prop :=
  OccursIn alike word.toList entry.title.toList ∨ OccursIn alike word.toList entry.comment.toList

/-- No NUL stands in the title or in the comment of the entry. -/
def Entry.NulFree (entry : Entry) : Prop :=
  '\x00' ∉ entry.title.toList ∧ '\x00' ∉ entry.comment.toList

instance : DecidablePred Entry.NulFree := fun _ => inferInstanceAs (Decidable (_ ∧ _))

/-- The search text is looked for as a word: it denotes no date, it holds no NUL, and its pattern, which is two
bytes longer, can be matched. -/
structure AsksForWord (search : String) : Prop where
  ne_empty : search ≠ ""
  noDate : ∀ d, ¬ Dotted.Denotes search.toList d
  noNul : '\x00' ∉ search.toList
  fits : (Text.utf8 search).length + 2 ≤ maxPatternBytes

section Words

variable {search : String} {entry : Entry}

/-- A word is found in every text in which it occurs. -/
theorem Wildcard.finds_of_occursIn {text : String} (hsearch : '\x00' ∉ search.toList)
    (htext : '\x00' ∉ text.toList) (h : OccursIn AlikeAsRead search.toList text.toList) :
    Finds search text := by
  rw [Finds, untilNul_eq_self (nul_notMem_containing hsearch), untilNul_eq_self htext]
  exact matches_containing h

/-- A word without wildcards is found only in the texts in which it occurs. -/
theorem Wildcard.occursIn_of_finds {text : String} (hsearch : '\x00' ∉ search.toList)
    (htext : '\x00' ∉ text.toList) (hpercent : '%' ∉ search.toList) (hunderscore : '_' ∉ search.toList)
    (h : Finds search text) : OccursIn AlikeAsRead search.toList text.toList := by
  rw [Finds, untilNul_eq_self (nul_notMem_containing hsearch), untilNul_eq_self htext] at h
  exact occursIn_of_matches_containing hpercent hunderscore h

theorem Entry.answers_of_holds (hsearch : AsksForWord search) (hentry : entry.NulFree)
    (h : entry.Holds AlikeAsRead search) : entry.Answers search := by
  refine Or.inr (Or.inr ⟨Dotted.parse?_eq_none_iff.2 hsearch.noDate, ?_⟩)
  rcases h with htitle | hcomment
  · exact Or.inl (Wildcard.finds_of_occursIn hsearch.noNul hentry.1 htitle)
  · exact Or.inr (Wildcard.finds_of_occursIn hsearch.noNul hentry.2 hcomment)

theorem Entry.holds_of_answers (hsearch : AsksForWord search) (hentry : entry.NulFree)
    (hpercent : '%' ∉ search.toList) (hunderscore : '_' ∉ search.toList) (h : entry.Answers search) :
    entry.Holds AlikeAsRead search := by
  rcases h with hempty | ⟨d, hdate, -⟩ | ⟨-, htitle | hcomment⟩
  · exact absurd hempty hsearch.ne_empty
  · exact absurd (Dotted.parse?_eq_some_iff.1 hdate) (hsearch.noDate d)
  · exact Or.inl (Wildcard.occursIn_of_finds hsearch.noNul hentry.1 hpercent hunderscore htitle)
  · exact Or.inr (Wildcard.occursIn_of_finds hsearch.noNul hentry.2 hpercent hunderscore hcomment)

theorem Entry.Holds.imp {alike alike' : Char → Char → Prop} (h : entry.Holds alike search)
    (himp : ∀ a ∈ search.toList, ∀ c, alike a c → alike' a c) : entry.Holds alike' search :=
  Or.imp (fun htitle => htitle.imp himp) (fun hcomment => hcomment.imp himp) h

theorem AsksForWord.not_isTooLong (hsearch : AsksForWord search) : ¬ IsTooLong search := by
  rintro ⟨-, -, hlong⟩
  exact absurd hlong (Nat.not_lt.2 hsearch.fits)

end Words

namespace Table

/-- A search for a word in a table without NULs, with a negative limit, lists every entry in which the word
occurs up to the case of ASCII letters, whatever wildcards are in the word.  If there is none, it lists no entry
but those in which the word occurs as characters are read; if the word has no character that is read as a
replacement character, these are the entries in which it occurs up to the case of ASCII letters. -/
theorem list_word (t : Table) {limit : Int} {search : String} (hlimit : limit < 0)
    (hfits : fitsRow limit = true) (hsearch : AsksForWord search)
    (hrows : ∀ row ∈ t.rows, row.entry.NulFree) :
    ∃ rows, t.list limit search = .ok rows
      ∧ (∀ row ∈ t.rows, row.entry.Holds AlikeUpToCase search → row ∈ rows)
      ∧ ('%' ∉ search.toList → '_' ∉ search.toList →
        (∀ row, row ∈ rows ↔ row ∈ t.rows ∧ row.entry.Holds AlikeAsRead search)
        ∧ ((∀ c ∈ search.toList, c ∉ readAsReplacement) →
          ∀ row, row ∈ rows ↔ row ∈ t.rows ∧ row.entry.Holds AlikeUpToCase search)) := by
  have hlist := t.list_eq search hfits
  rw [if_neg fun hrefused => hsearch.not_isTooLong hrefused.1, cutTo, if_pos hlimit] at hlist
  have hcomplete := (t.isListing_byDate search).complete
  have hfound : ∀ row : Row, row.entry.Holds AlikeUpToCase search → row.entry.Holds AlikeAsRead search :=
    fun row hholds => hholds.imp fun a _ c hac => hac.alikeAsRead
  refine ⟨_, hlist, fun row hrow hholds => ?_, fun hpercent hunderscore => ?_⟩
  · exact (hcomplete row).2 ⟨hrow, Entry.answers_of_holds hsearch (hrows row hrow) (hfound row hholds)⟩
  · have hexact : ∀ row, row ∈ byDate (t.rows.filter fun r => (Query.ofSearch search).selects r.entry)
        ↔ row ∈ t.rows ∧ row.entry.Holds AlikeAsRead search := fun row =>
      (hcomplete row).trans (and_congr_right fun hrow =>
        ⟨Entry.holds_of_answers hsearch (hrows row hrow) hpercent hunderscore,
          Entry.answers_of_holds hsearch (hrows row hrow)⟩)
    refine ⟨hexact, fun hplain row => (hexact row).trans (and_congr_right fun _ => ⟨?_, hfound row⟩)⟩
    exact fun hholds => hholds.imp fun a ha c hac => hac.alikeUpToCase (hplain a ha)

/-- The word with a wildcard is found where it stands, and the word without one nowhere else than where it
stands, up to case. -/
theorem list_word_milk :
    let milk : Row := ⟨1, ⟨"20240126", "Milk 50%", "", ""⟩⟩
    let t : Table := ⟨[milk, ⟨2, ⟨"20240126", "tea", "505 leaves", ""⟩⟩], by decide, by decide⟩
    AsksForWord "50%" ∧ AsksForWord "MILK" ∧ (∀ row ∈ t.rows, row.entry.NulFree)
      ∧ (∃ rows, t.list (-1) "50%" = .ok rows ∧ milk ∈ rows)
      ∧ ∃ rows, t.list (-1) "MILK" = .ok rows
        ∧ ∀ row, row ∈ rows ↔ row ∈ t.rows ∧ row.entry.Holds AlikeUpToCase "MILK" := by
  intro milk t
  have hpercent : AsksForWord "50%" :=
    ⟨by decide, Dotted.parse?_eq_none_iff.1 (by decide), by decide, by decide +kernel⟩
  have hplain : AsksForWord "MILK" :=
    ⟨by decide, Dotted.parse?_eq_none_iff.1 (by decide), by decide, by decide +kernel⟩
  have hrows : ∀ row ∈ t.rows, row.entry.NulFree := by decide
  have hstands : milk.entry.Holds AlikeUpToCase "50%" :=
    Or.inl ⟨"50%".toList, by decide, List.forall₂_same.2 fun _ _ => rfl⟩
  have hnegative : (-1 : Int) < 0 := by decide
  obtain ⟨found, hfound, hcomplete, -⟩ := t.list_word hnegative (by decide) hpercent hrows
  obtain ⟨found', hfound', -, hexact⟩ := t.list_word hnegative (by decide) hplain hrows
  exact ⟨hpercent, hplain, hrows, ⟨found, hfound, hcomplete milk (by simp [t]) hstands⟩, found', hfound',
    (hexact (by decide) (by decide)).2 (by simp [readAsReplacement])⟩

/-- The replacement character is found in an entry that does not hold it, because a noncharacter is read as one.
With a negative limit that does not fit in its field nothing is listed. -/
theorem list_word_inexact :
    let t : Table := ⟨[⟨1, ⟨"20240126", "\uFFFE", "", ""⟩⟩], by decide, by decide⟩
    (∀ row ∈ t.rows, row.entry.NulFree)
      ∧ (AsksForWord "\uFFFD" ∧ '%' ∉ "\uFFFD".toList ∧ '_' ∉ "\uFFFD".toList)
      ∧ t.list (-1) "\uFFFD" = .ok t.rows
      ∧ (∃ row ∈ t.rows, ¬ row.entry.Holds AlikeUpToCase "\uFFFD")
      ∧ AsksForWord "\uFFFE" ∧ (∃ row ∈ t.rows, row.entry.Holds AlikeUpToCase "\uFFFE")
      ∧ t.list (-9223372036854775809) "\uFFFE" = .error .numberTooLarge := by
  intro t
  have hword : AsksForWord "\uFFFD" :=
    ⟨by decide, Dotted.parse?_eq_none_iff.1 (by decide), by decide, by decide +kernel⟩
  have hword' : AsksForWord "\uFFFE" :=
    ⟨by decide, Dotted.parse?_eq_none_iff.1 (by decide), by decide, by decide +kernel⟩
  have hstands : Entry.Holds AlikeUpToCase "\uFFFE" ⟨"20240126", "\uFFFE", "", ""⟩ :=
    Or.inl ⟨"\uFFFE".toList, List.infix_rfl, List.forall₂_same.2 fun _ _ => rfl⟩
  refine ⟨by decide, ⟨hword, by decide, by decide⟩, by decide +kernel, ⟨_, List.mem_singleton.2 rfl, ?_⟩,
    hword', ⟨_, List.mem_singleton.2 rfl, hstands⟩, by decide +kernel⟩
  rintro (htitle | hcomment)
  · obtain ⟨c, hc, halike⟩ := htitle.exists_mem (a := '\uFFFD') (by decide)
    obtain rfl := List.mem_singleton.1 (show c ∈ ['\uFFFE'] from hc)
    exact absurd halike (by decide)
  · obtain ⟨c, hc, -⟩ := hcomment.exists_mem (a := '\uFFFD') (by decide)
    exact absurd hc (by simp)

end Table
end Agenda
