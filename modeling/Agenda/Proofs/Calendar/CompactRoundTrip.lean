import Agenda.Proofs.Calendar.TextOrder
/-!
# Writing compact date texts and reading them back

From year 1000 on, a date has one text of eight digits.  It is the one that is written, and texts that are written
are in the order of time.

* `Compact.Denotes.text_unique` — a date has one text of eight digits.
* `Compact.Denotes.eq_writeChars` — from year 1000 on it is the one that is written.
* `Compact.write_lt_write_iff` — written texts are in the order of their dates.
* `Compact.parse_write_parse` — what comes of writing and reading, in both orders.
-/

namespace Agenda
namespace Compact

variable {cs cs' : List Char} {d e : Date}

/-- Texts of one date are in no order, and so they are the same. -/
theorem Denotes.text_unique (h : Denotes cs d) (h' : Denotes cs' d) : cs = cs' := by
  have hnot : ¬ d < d := Nat.lt_irrefl d.dayNumber
  rcases lt_trichotomy cs cs' with hlt | heq | hgt
  · exact absurd ((h.lt_iff h').1 hlt) hnot
  · exact heq
  · exact absurd ((h'.lt_iff h).1 hgt) hnot

theorem Denotes.eq_writeChars (h : Denotes cs d) (hyear : 1000 ≤ d.year) : cs = writeChars d :=
  h.text_unique (denotes_writeChars hyear)

/-- A text from which a date of year 1000 or later is read is the text of this date with blanks around it. -/
theorem stripped_write {text : String} (hparse : parse text = .ok d) (hyear : 1000 ≤ d.year) :
    Text.Stripped text.toList (write d).toList := by
  rw [write, String.toList_ofList, ← (parse_eq_ok_iff.1 hparse).eq_writeChars hyear]
  exact Text.stripped_trim text.toList

/-- From year 1000 on, texts are written in the order of their dates. -/
theorem write_lt_write_iff (hd : 1000 ≤ d.year) (he : 1000 ≤ e.year) : write d < write e ↔ d < e := by
  rw [String.lt_iff_toList_lt, write, write, String.toList_ofList, String.toList_ofList]
  exact (denotes_writeChars hd).lt_iff (denotes_writeChars he)

/-- A date is read back from its text exactly from year 1000 on; the text of an earlier one has too few digits.
From year 1000 on, a text from which a date is read is, without the blanks around it, the text of this date, and
the texts of two dates are in the order of the dates. -/
theorem parse_write_parse :
    (∀ d : Date, parse (write d)
      = if 1000 ≤ d.year then .ok d else .error ⟨writeChars d, .notEightDigits⟩)
    ∧ (∀ (text : String) (d : Date), parse text = .ok d → 1000 ≤ d.year →
      Text.Stripped text.toList (write d).toList)
    ∧ ∀ d e : Date, 1000 ≤ d.year → 1000 ≤ e.year → (write d < write e ↔ d < e) := by
  refine ⟨fun d => ?_, fun text d hparse hyear => stripped_write hparse hyear,
    fun d e hd he => write_lt_write_iff hd he⟩
  split
  · next hyear => exact parse_write hyear
  · next hyear => exact parse_write_early (by omega)

/-- The last leap day of the calendar is read with blanks around it, and its text is after that of the first day of
year 1000.  The text of the day before is not read back, and it is not in order either. -/
theorem parse_write_parse_leapDay :
    let early : Date := ⟨999, 12, 31, by decide⟩
    let first : Date := ⟨1000, 1, 1, by decide⟩
    let leap : Date := ⟨9996, 2, 29, by decide⟩
    (parse "\u200399960229\n" = .ok leap ∧ Text.Stripped "\u200399960229\n".toList (write leap).toList)
      ∧ (first < leap ∧ write first < write leap)
      ∧ parse (write early) = .error ⟨"9991231".toList, .notEightDigits⟩
      ∧ early < first ∧ write first < write early := by
  intro early first leap
  obtain ⟨hback, hstripped, hordered⟩ := parse_write_parse
  have hleap : parse "\u200399960229\n" = .ok leap := by decide +kernel
  have hlt : first < leap := by decide +kernel
  have hearly : parse (write early) = .error ⟨"9991231".toList, .notEightDigits⟩ := by
    rw [hback early, if_neg (by decide)]
    decide +kernel
  exact ⟨⟨hleap, hstripped _ leap hleap (by decide)⟩,
    ⟨hlt, (hordered first leap (by decide) (by decide)).2 hlt⟩, hearly, by decide +kernel, by decide +kernel⟩

end Compact
end Agenda
