import Agenda.Calendar.Dotted
import Agenda.Proofs.Calendar.CompactText
/-!
# Dotted date texts and the dates that they denote

* `Dotted.Denotes` — two digits, two digits and four digits, with dots between them, that form a date.
* `Dotted.parse?_eq_some_iff`, `Dotted.parse?_eq_none_iff` — a date is read exactly from a text that denotes it.
* `Dotted.parse?_write` — a written date is read back, whatever its year.
-/

namespace Agenda
namespace Dotted

/-- The text is made of two ASCII digits for the day of the date, two for its month and four for its year, with
dots between them. -/
def Denotes (cs : List Char) (d : Date) : Prop :=
  ∃ dayText monthText yearText day month year, cs = dayText ++ '.' :: (monthText ++ '.' :: yearText)
    ∧ (Text.Digits dayText day ∧ Text.Digits monthText month ∧ Text.Digits yearText year)
    ∧ (day.length = 2 ∧ month.length = 2 ∧ year.length = 4)
    ∧ Text.ofDigits day = d.day ∧ Text.ofDigits month = d.month ∧ Text.ofDigits year = d.year

theorem denotes_of_read? {cs : List Char} {d : Date} (h : read? cs = some d) : Denotes cs d := by
  unfold read? at h
  split at h
  · next d1 d2 m1 m2 y1 y2 y3 y4 =>
      split at h
      · next day month year hday hmonth hyear =>
          obtain ⟨hyearValue, hmonthValue, hdayValue⟩ := Date.ofParts?_eq_some_iff.1 h
          have hdayDigits := Text.Digits.iff_mapM.2 hday
          have hmonthDigits := Text.Digits.iff_mapM.2 hmonth
          have hyearDigits := Text.Digits.iff_mapM.2 hyear
          exact ⟨[d1, d2], [m1, m2], [y1, y2, y3, y4], day, month, year, rfl,
            ⟨hdayDigits, hmonthDigits, hyearDigits⟩,
            ⟨hdayDigits.length_eq.symm, hmonthDigits.length_eq.symm, hyearDigits.length_eq.symm⟩,
            hdayValue.symm, hmonthValue.symm, hyearValue.symm⟩
      · cases h
  · cases h

theorem Denotes.read?_eq {cs : List Char} {d : Date} (h : Denotes cs d) : read? cs = some d := by
  obtain ⟨dayText, monthText, yearText, day, month, year, rfl, ⟨hday, hmonth, hyear⟩,
    ⟨hdayLength, hmonthLength, hyearLength⟩, hdayValue, hmonthValue, hyearValue⟩ := h
  rw [← hday.length_eq] at hdayLength
  rw [← hmonth.length_eq] at hmonthLength
  rw [← hyear.length_eq] at hyearLength
  obtain ⟨d1, d2, rfl⟩ := List.length_eq_two.1 hdayLength
  obtain ⟨m1, m2, rfl⟩ := List.length_eq_two.1 hmonthLength
  obtain ⟨y1, y2, y3, y4, rfl⟩ := List.length_eq_four.1 hyearLength
  have hdayRead : Compact.digits? [d1, d2] = some day := Text.Digits.iff_mapM.1 hday
  have hmonthRead : Compact.digits? [m1, m2] = some month := Text.Digits.iff_mapM.1 hmonth
  have hyearRead : Compact.digits? [y1, y2, y3, y4] = some year := Text.Digits.iff_mapM.1 hyear
  simp only [read?, List.cons_append, List.nil_append, hdayRead, hmonthRead, hyearRead]
  exact Date.ofParts?_eq_some_iff.2 ⟨hyearValue.symm, hmonthValue.symm, hdayValue.symm⟩

/-- A date is read exactly from a text that denotes it. -/
theorem parse?_eq_some_iff {text : String} {d : Date} :
    parse? text = some d ↔ Denotes text.toList d :=
  ⟨denotes_of_read?, Denotes.read?_eq⟩

theorem parse?_eq_none_iff {text : String} : parse? text = none ↔ ∀ d, ¬ Denotes text.toList d := by
  simp only [Option.eq_none_iff_forall_ne_some, ne_eq, parse?_eq_some_iff]

/-! ## Writing -/

/-- Trimming leaves a dotted date text alone. -/
theorem Denotes.trim_eq {cs : List Char} {d : Date} (h : Denotes cs d) : Text.trim cs = cs := by
  obtain ⟨dayText, monthText, yearText, day, month, year, rfl, ⟨hday, hmonth, hyear⟩, -⟩ := h
  have hall : ∀ c ∈ dayText ++ '.' :: (monthText ++ '.' :: yearText), Text.isBlank c = false := by
    intro c hc
    simp only [List.mem_append, List.mem_cons] at hc
    rcases hc with hc | rfl | hc | rfl | hc
    · exact hday.not_isBlank c hc
    · decide
    · exact hmonth.not_isBlank c hc
    · decide
    · exact hyear.not_isBlank c hc
  exact Text.trim_eq_self (fun c hc => hall c (List.mem_of_head? hc))
    fun c hc => hall c (List.mem_of_getLast? hc)

/-- The dotted text of a date denotes it, whatever its year. -/
theorem denotes_write (d : Date) : Denotes (write d).toList d := by
  have hlast := d.year_le
  obtain ⟨day, hdayDigits, hdayValue⟩ := Text.digits_padded 2 d.day
  obtain ⟨month, hmonthDigits, hmonthValue⟩ := Text.digits_padded 2 d.month
  obtain ⟨year, hyearDigits, hyearValue⟩ := Text.digits_padded 4 d.year
  rw [write, String.toList_ofList]
  refine ⟨_, _, _, day, month, year, rfl, ⟨hdayDigits, hmonthDigits, hyearDigits⟩, ⟨?_, ?_, ?_⟩,
    hdayValue, hmonthValue, hyearValue⟩
  · rw [← hdayDigits.length_eq]
    exact Compact.length_paddedDay d
  · rw [← hmonthDigits.length_eq]
    exact Compact.length_paddedMonth d
  · rw [← hyearDigits.length_eq]
    exact Text.length_padded (by omega) (by omega)

/-- A date is read back from its dotted text. -/
theorem parse?_write (d : Date) : parse? (write d) = some d :=
  parse?_eq_some_iff.2 (denotes_write d)

end Dotted
end Agenda
