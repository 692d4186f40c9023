import Agenda.Calendar.Compact
import Agenda.Proofs.Calendar.DayNumbers
import Agenda.Proofs.Text.Numerals
import Agenda.Proofs.Text.Trimming
/-!
# Compact date texts and the dates that they denote

A compact text is read as four digits of a year, two of a month and two of a day.  The shorter readings
of a month or a day that are tried as well never lead to a date, because they leave digits over.

* `Compact.HasParts` — eight digits with the numbers at their three places; `Compact.Denotes` — eight digits
  that form a date.
* `Compact.Reads` — when each outcome of reading a text arises; `Compact.read_reads` — there is no other.
* `Compact.read_eq_ok_iff`, `Compact.parse_eq_ok_iff` — a date is read exactly from the digits that
  denote it.
* `Compact.parse_byPosition` — what is read from any text.
* `Compact.parse_write`, `Compact.parse_write_early` — a written date is read back if its year is 1000 or
  later, and not if it is an earlier one.
* `Compact.IsDateText` — the text that is written for a date and read back as it.
-/

namespace Agenda
namespace Compact

/-- The text is made of eight ASCII digits: four for the year of the date, two for its month and two for
its day. -/
def Denotes (cs : List Char) (d : Date) : Prop :=
  ∃ year month day, Text.Digits cs (year ++ (month ++ day))
    ∧ (year.length = 4 ∧ month.length = 2 ∧ day.length = 2)
    ∧ Text.ofDigits year = d.year ∧ Text.ofDigits month = d.month ∧ Text.ofDigits day = d.day

/-! ## The readings of a month and a day -/

theorem twoDigits_eq_some {lowest highest a b n : Nat} {rest left : List Nat}
    (h : twoDigits lowest highest (a :: b :: rest) = some (n, left)) :
    n = 10 * a + b ∧ left = rest ∧ lowest ≤ n ∧ n ≤ highest := by
  simp only [twoDigits] at h
  split at h
  · next hrange =>
      obtain ⟨rfl, rfl⟩ := Prod.mk.inj (Option.some.inj h)
      exact ⟨rfl, rfl, hrange⟩
  · cases h

theorem oneDigit_eq_some {a n : Nat} {rest left : List Nat}
    (h : oneDigit (a :: rest) = some (n, left)) : left = rest := by
  simp only [oneDigit] at h
  split at h
  · exact (Prod.mk.inj (Option.some.inj h)).2.symm
  · cases h

/-- A month is read from both digits, or only from the first one. -/
theorem mem_monthReadings {a b month : Nat} {rest left : List Nat}
    (h : (month, left) ∈ monthReadings (a :: b :: rest)) :
    (month = 10 * a + b ∧ left = rest ∧ 1 ≤ month ∧ month ≤ 12) ∨ left = b :: rest := by
  simp only [monthReadings, List.mem_filterMap, List.mem_cons, List.not_mem_nil, or_false, id] at h
  obtain ⟨reading, hreading, hsome⟩ := h
  rcases hreading with rfl | rfl | rfl
  · have hmonth := twoDigits_eq_some hsome
    exact Or.inl ⟨hmonth.1, hmonth.2.1, by omega, by omega⟩
  · have hmonth := twoDigits_eq_some hsome
    exact Or.inl ⟨hmonth.1, hmonth.2.1, by omega, by omega⟩
  · exact Or.inr (oneDigit_eq_some hsome)

theorem mem_dayReadings {a b day : Nat} {rest left : List Nat}
    (h : (day, left) ∈ dayReadings (a :: b :: rest)) :
    (day = 10 * a + b ∧ left = rest ∧ 1 ≤ day ∧ day ≤ 31) ∨ left = b :: rest := by
  simp only [dayReadings, List.mem_filterMap, List.mem_cons, List.not_mem_nil, or_false, id] at h
  obtain ⟨reading, hreading, hsome⟩ := h
  rcases hreading with rfl | rfl | rfl | rfl
  · have hday := twoDigits_eq_some hsome
    exact Or.inl ⟨hday.1, hday.2.1, by omega, by omega⟩
  · have hday := twoDigits_eq_some hsome
    exact Or.inl ⟨hday.1, hday.2.1, by omega, by omega⟩
  · have hday := twoDigits_eq_some hsome
    exact Or.inl ⟨hday.1, hday.2.1, by omega, by omega⟩
  · exact Or.inr (oneDigit_eq_some hsome)

/-- The two numbers are a month and a day of some month. -/
def AreMonthAndDay (month day : Nat) : Prop :=
  (1 ≤ month ∧ month ≤ 12) ∧ (1 ≤ day ∧ day ≤ 31)

/-- A reading of four digits that leaves none over takes two for the month and two for the day. -/
theorem monthAndDay?_complete {e f g h month day : Nat}
    (hread : monthAndDay? [e, f, g, h] = some (month, day, [])) :
    (month = 10 * e + f ∧ day = 10 * g + h) ∧ AreMonthAndDay month day := by
  unfold monthAndDay? at hread
  obtain ⟨⟨month', rest⟩, hmonth, hday⟩ := List.exists_of_findSome?_eq_some hread
  obtain ⟨⟨day', left⟩, hhead, hparts⟩ := Option.map_eq_some_iff.1 hday
  simp only [Prod.mk.injEq] at hparts
  obtain ⟨rfl, rfl, rfl⟩ := hparts
  have hmem := List.mem_of_head? hhead
  -- Only the reading of both digits of the month leaves two digits for the day.
  rcases mem_monthReadings hmonth with ⟨hmonth', rfl, hmonthBounds⟩ | rfl
  · rcases mem_dayReadings hmem with ⟨hday', -, hdayBounds⟩ | hleft
    · exact ⟨⟨hmonth', hday'⟩, hmonthBounds, hdayBounds⟩
    · cases hleft
  · -- Three digits are left for the day, which takes at most two of them.
    rcases mem_dayReadings hmem with ⟨-, hleft, -⟩ | hleft
    · cases hleft
    · cases hleft

/-- Two digits that form a month and two that form a day are read as such. -/
theorem monthAndDay?_of_areMonthAndDay {e f g h : Nat} (hin : AreMonthAndDay (10 * e + f) (10 * g + h)) :
    monthAndDay? [e, f, g, h] = some (10 * e + f, 10 * g + h, []) := by
  obtain ⟨hmonth, hday⟩ := hin
  -- Whatever the first digit is, the reading of both digits is tried before that of one.
  have hdayFirst : (dayReadings [g, h]).head? = some (10 * g + h, []) := by
    unfold dayReadings twoDigits
    by_cases hlate : 30 ≤ 10 * g + h
    · simp [hlate, hday.2]
    · by_cases hmiddle : 10 ≤ 10 * g + h
      · have hend : 10 * g + h ≤ 29 := by omega
        simp [hlate, hmiddle, hend]
      · have hend : 10 * g + h ≤ 9 := by omega
        simp [hlate, hmiddle, hday.1, hend]
  have hmonthFirst : ∃ others, monthReadings [e, f, g, h] = (10 * e + f, [g, h]) :: others := by
    unfold monthReadings twoDigits
    by_cases hlate : 10 ≤ 10 * e + f
    · simp [hlate, hmonth.2]
    · have hend : 10 * e + f ≤ 9 := by omega
      simp [hlate, hmonth.1, hend]
  obtain ⟨others, hothers⟩ := hmonthFirst
  unfold monthAndDay?
  rw [hothers, List.findSome?_cons]
  simp only [hdayFirst, Option.map_some]

/-! ## Reading by position -/

/-- The text is made of eight ASCII digits: four for a year, two for a month and two for a day.  The three
numbers need not form a date. -/
def HasParts (cs : List Char) (year month day : Nat) : Prop :=
  ∃ yearDigits monthDigits dayDigits, Text.Digits cs (yearDigits ++ (monthDigits ++ dayDigits))
    ∧ (yearDigits.length = 4 ∧ monthDigits.length = 2 ∧ dayDigits.length = 2)
    ∧ Text.ofDigits yearDigits = year ∧ Text.ofDigits monthDigits = month ∧ Text.ofDigits dayDigits = day

theorem hasParts_iff {cs : List Char} {year month day : Nat} : HasParts cs year month day
    ↔ ∃ a b c d e f g h, digits? cs = some [a, b, c, d, e, f, g, h]
      ∧ Text.ofDigits [a, b, c, d] = year ∧ 10 * e + f = month ∧ 10 * g + h = day := by
  have htwo : ∀ x y : Nat, Text.ofDigits [x, y] = 10 * x + y := by simp [Text.ofDigits]
  constructor
  · rintro ⟨yearDigits, monthDigits, dayDigits, hdigits, ⟨hyear, hmonth, hday⟩, hvalues⟩
    obtain ⟨a, b, c, d, rfl⟩ := List.length_eq_four.1 hyear
    obtain ⟨e, f, rfl⟩ := List.length_eq_two.1 hmonth
    obtain ⟨g, h, rfl⟩ := List.length_eq_two.1 hday
    rw [htwo, htwo] at hvalues
    exact ⟨a, b, c, d, e, f, g, h, Text.Digits.iff_mapM.1 hdigits, hvalues⟩
  · rintro ⟨a, b, c, d, e, f, g, h, hdigits, hvalues⟩
    refine ⟨[a, b, c, d], [e, f], [g, h], Text.Digits.iff_mapM.2 hdigits, ⟨rfl, rfl, rfl⟩, ?_⟩
    rw [htwo, htwo]
    exact hvalues

/-- Four digits form no year beyond the last one. -/
theorem HasParts.year_le {cs : List Char} {year month day : Nat} (h : HasParts cs year month day) :
    year ≤ lastYear := by
  obtain ⟨yearDigits, monthDigits, dayDigits, hdigits, ⟨hyear, hmonth, hday⟩, rfl, -⟩ := h
  have hall := hdigits.ofDigits_lt
  rw [Text.ofDigits_append] at hall
  simp only [List.length_append, hyear, hmonth, hday] at hall
  unfold lastYear
  omega

theorem HasParts.length_eq {cs : List Char} {year month day : Nat} (h : HasParts cs year month day) :
    cs.length = 8 := by
  obtain ⟨yearDigits, monthDigits, dayDigits, hdigits, ⟨hyear, hmonth, hday⟩, -⟩ := h
  rw [hdigits.length_eq, List.length_append, List.length_append, hyear, hmonth, hday]

/-- The parts of a text are determined by it. -/
theorem HasParts.unique {cs : List Char} {year month day year' month' day' : Nat}
    (h : HasParts cs year month day) (h' : HasParts cs year' month' day') :
    year = year' ∧ month = month' ∧ day = day' := by
  obtain ⟨a, b, c, d, e, f, g, i, hdigits, hyear, hmonth, hday⟩ := hasParts_iff.1 h
  obtain ⟨a', b', c', d', e', f', g', i', hdigits', hyear', hmonth', hday'⟩ := hasParts_iff.1 h'
  simp only [hdigits, Option.some.injEq, List.cons.injEq, and_true] at hdigits'
  obtain ⟨rfl, rfl, rfl, rfl, rfl, rfl, rfl, rfl⟩ := hdigits'
  exact ⟨hyear ▸ hyear', by omega, by omega⟩

/-- What is read from a text, and when.  The shorter readings of a month and a day are tried only where both
digits do not form one, and then digits are left over or none can be read at all. -/
inductive Reads (cs : List Char) : Except DateTextFault Date → Prop
  | notEightDigits (hnone : ¬ ∃ year month day, HasParts cs year month day) :
      Reads cs (.error .notEightDigits)
  | noReading {year month day : Nat} (hparts : HasParts cs year month day)
      (hout : ¬ AreMonthAndDay month day) : Reads cs (.error .noReading)
  | leftover {year month day : Nat} (hparts : HasParts cs year month day)
      (hout : ¬ AreMonthAndDay month day) (digits : List Char) : Reads cs (.error (.leftover digits))
  | yearZero {month day : Nat} (hparts : HasParts cs 0 month day) (hin : AreMonthAndDay month day) :
      Reads cs (.error .yearZero)
  | noSuchDay {year month day : Nat} (hparts : HasParts cs year month day) (hyear : 1 ≤ year)
      (hin : AreMonthAndDay month day) (hday : monthLength year month < day) :
      Reads cs (.error .noSuchDay)
  | date {d : Date} (hparts : HasParts cs d.year d.month d.day) : Reads cs (.ok d)

theorem read_reads (cs : List Char) : Reads cs (read cs) := by
  unfold read
  split
  · next a b c d e f g h hdigits =>
      have hparts : HasParts cs (Text.ofDigits [a, b, c, d]) (10 * e + f) (10 * g + h) :=
        hasParts_iff.2 ⟨a, b, c, d, e, f, g, h, hdigits, rfl, rfl, rfl⟩
      split
      · next hnone =>
          refine Reads.noReading hparts fun hin => ?_
          rw [monthAndDay?_of_areMonthAndDay hin] at hnone
          cases hnone
      · next month day left hsome =>
          split
          · next hleft =>
              refine Reads.leftover hparts (fun hin => ?_) _
              rw [monthAndDay?_of_areMonthAndDay hin] at hsome
              cases hsome
              exact hleft rfl
          · next hleft =>
              rw [not_not] at hleft
              subst hleft
              obtain ⟨⟨rfl, rfl⟩, hin⟩ := monthAndDay?_complete hsome
              simp only
              split
              · next hzero =>
                  rw [hzero] at hparts
                  exact Reads.yearZero hparts hin
              · next hpositive =>
                  split
                  · next date hdate =>
                      obtain ⟨hyear, hmonth, hday⟩ := Date.ofParts?_eq_some_iff.1 hdate
                      rw [← hyear, ← hmonth, ← hday] at hparts
                      exact Reads.date hparts
                  · next hnone =>
                      -- Four digits form no year beyond the last one, so only the day can be wrong.
                      have hlast := hparts.year_le
                      have hnot := Date.ofParts?_eq_none_iff.1 hnone
                      obtain ⟨hmonth, hday⟩ := hin
                      refine Reads.noSuchDay hparts (by omega) ⟨hmonth, hday⟩ ?_
                      by_contra hfits
                      exact hnot ⟨⟨by unfold firstYear; omega, hlast⟩, hmonth, hday.1, by omega⟩
  · next hnot =>
      refine Reads.notEightDigits ?_
      rintro ⟨year, month, day, hparts⟩
      obtain ⟨a, b, c, d, e, f, g, h, hdigits, -⟩ := hasParts_iff.1 hparts
      exact hnot a b c d e f g h hdigits

/-! ## Reading and writing -/

/-- A date is read exactly from a text that denotes it. -/
theorem read_eq_ok_iff {cs : List Char} {d : Date} : read cs = .ok d ↔ Denotes cs d := by
  have hreads := read_reads cs
  constructor
  · intro hread
    rw [hread] at hreads
    cases hreads with
    | date hparts => exact hparts
  · intro hdenotes
    have hparts : HasParts cs d.year d.month d.day := hdenotes
    have hin : AreMonthAndDay d.month d.day := ⟨d.month_bounds, d.day_bounds.1, d.day_le⟩
    generalize read cs = answer at hreads
    -- The parts of the date exclude every other outcome.
    cases hreads with
    | notEightDigits hnone => exact absurd ⟨_, _, _, hparts⟩ hnone
    | noReading hother hout =>
        obtain ⟨-, rfl, rfl⟩ := hother.unique hparts
        exact absurd hin hout
    | leftover hother hout =>
        obtain ⟨-, rfl, rfl⟩ := hother.unique hparts
        exact absurd hin hout
    | yearZero hother =>
        have hyear := (hother.unique hparts).1
        have hfirst := d.one_le_year
        omega
    | noSuchDay hother _ _ hday =>
        obtain ⟨rfl, rfl, rfl⟩ := hother.unique hparts
        exact absurd d.day_bounds.2 (Nat.not_le.2 hday)
    | date hother =>
        obtain ⟨hyear, hmonth, hday⟩ := hother.unique hparts
        rw [Date.ext hyear hmonth hday]

theorem read_eq_notEightDigits {cs : List Char} (hnone : ¬ ∃ year month day, HasParts cs year month day) :
    read cs = .error .notEightDigits := by
  have hreads := read_reads cs
  generalize read cs = answer at hreads ⊢
  cases hreads with
  | notEightDigits => rfl
  | noReading hparts | leftover hparts | yearZero hparts | noSuchDay hparts | date hparts =>
      exact absurd ⟨_, _, _, hparts⟩ hnone

/-- The parts of a text form a date exactly when it denotes one. -/
theorem exists_denotes_iff {cs : List Char} :
    (∃ d, Denotes cs d) ↔ ∃ year month day, HasParts cs year month day ∧ IsDate year month day := by
  constructor
  · rintro ⟨d, hd⟩
    exact ⟨d.year, d.month, d.day, hd, d.isDate⟩
  · rintro ⟨year, month, day, hparts, hdate⟩
    exact ⟨⟨year, month, day, hdate⟩, hparts⟩

/-- A text denotes one date only. -/
theorem Denotes.unique {cs : List Char} {d e : Date} (hd : Denotes cs d) (he : Denotes cs e) :
    d = e := by
  rw [← read_eq_ok_iff] at hd he
  rw [hd] at he
  exact Except.ok.inj he

/-- A date is read from a text exactly when the text denotes it, blanks around it aside. -/
theorem parse_eq_ok_iff {text : String} {d : Date} :
    parse text = .ok d ↔ Denotes (Text.trim text.toList) d := by
  rw [← read_eq_ok_iff]
  exact mapError_eq_ok_iff

/-- Every text is read by position, blanks around it aside.  It gives the date with the parts that stand at the
places of its eight digits, and so it gives one exactly when there are eight digits whose parts form a date.
Any other text is refused, with itself and the reason. -/
theorem parse_byPosition (text : String) : ∃ t, Text.Stripped text.toList t
    ∧ (∀ d, parse text = .ok d ↔ HasParts t d.year d.month d.day)
    ∧ ((∃ d, parse text = .ok d) ↔ ∃ year month day, HasParts t year month day ∧ IsDate year month day)
    ∧ ((∃ fault, parse text = .error ⟨t, fault⟩ ∧ Reads t (.error fault))
      ↔ ¬ ∃ year month day, HasParts t year month day ∧ IsDate year month day) := by
  have haccepted : (∃ d, parse text = .ok d)
      ↔ ∃ year month day, HasParts (Text.trim text.toList) year month day ∧ IsDate year month day := by
    rw [← exists_denotes_iff]
    exact exists_congr fun d => parse_eq_ok_iff
  refine ⟨Text.trim text.toList, Text.stripped_trim text.toList, fun d => parse_eq_ok_iff, haccepted, ?_⟩
  rw [← haccepted]
  have hreads := read_reads (Text.trim text.toList)
  have hparse : parse text
      = (read (Text.trim text.toList)).mapError fun fault => ⟨Text.trim text.toList, fault⟩ := rfl
  rw [hparse]
  cases hread : read (Text.trim text.toList) with
  | ok d => simp [Except.mapError]
  | error fault =>
      rw [hread] at hreads
      simp [Except.mapError, hreads]

/-- No month 13 is found in the digits, and no year 0. -/
example : parse "\u200320240229 " = .ok ⟨2024, 2, 29, by decide⟩
    ∧ parse "20241301" = .error ⟨"20241301".toList, .leftover ['1']⟩
    ∧ parse "00000229" = .error ⟨"00000229".toList, .yearZero⟩
    ∧ parse "20230229" = .error ⟨"20230229".toList, .noSuchDay⟩ := by
  decide +kernel

/-- The month of a date is written in two digits. -/
theorem length_paddedMonth (d : Date) : (Text.padded 2 d.month).length = 2 := by
  have hmonth := d.month_bounds
  exact Text.length_padded (by omega) (by omega)

/-- The day of a date is written in two digits. -/
theorem length_paddedDay (d : Date) : (Text.padded 2 d.day).length = 2 := by
  have hday := d.day_le
  exact Text.length_padded (by omega) (by omega)

/-- The text of a date of year 1000 or later denotes it. -/
theorem denotes_writeChars {d : Date} (hyear : 1000 ≤ d.year) : Denotes (writeChars d) d := by
  have hlast := d.year_le
  obtain ⟨year, hyearDigits, hyearValue⟩ := Text.digits_decimal d.year
  obtain ⟨month, hmonthDigits, hmonthValue⟩ := Text.digits_padded 2 d.month
  obtain ⟨day, hdayDigits, hdayValue⟩ := Text.digits_padded 2 d.day
  refine ⟨year, month, day, hyearDigits.append (hmonthDigits.append hdayDigits), ⟨?_, ?_, ?_⟩,
    hyearValue, hmonthValue, hdayValue⟩
  · -- A year from 1000 to 9999 is written in four digits without being filled up.
    rw [← hyearDigits.length_eq]
    have hfour := (Text.length_decimal_le_iff (n := d.year) (k := 4) (by omega)).2 (by omega)
    have hthree := mt (Text.length_decimal_le_iff (n := d.year) (k := 3) (by omega)).1 (by omega)
    omega
  · rw [← hmonthDigits.length_eq]
    exact length_paddedMonth d
  · rw [← hdayDigits.length_eq]
    exact length_paddedDay d

/-- A written date of year 1000 or later is read back. -/
theorem parse_write {d : Date} (hyear : 1000 ≤ d.year) : parse (write d) = .ok d := by
  have hdenotes := denotes_writeChars hyear
  have htrim : Text.trim (writeChars d) = writeChars d := by
    obtain ⟨year, month, day, hdigits, -⟩ := hdenotes
    exact hdigits.trim_eq
  rw [parse_eq_ok_iff, write, String.toList_ofList, htrim]
  exact hdenotes

/-- The text of a date before year 1000 has fewer than eight digits. -/
theorem parse_write_early {d : Date} (hyear : d.year < 1000) :
    parse (write d) = .error ⟨writeChars d, .notEightDigits⟩ := by
  obtain ⟨year, hyearDigits, -⟩ := Text.digits_decimal d.year
  obtain ⟨month, hmonthDigits, -⟩ := Text.digits_padded 2 d.month
  obtain ⟨day, hdayDigits, -⟩ := Text.digits_padded 2 d.day
  have hdigits : Text.Digits (writeChars d) (year ++ (month ++ day)) :=
    hyearDigits.append (hmonthDigits.append hdayDigits)
  have hshort : (writeChars d).length < 8 := by
    have hthree := (Text.length_decimal_le_iff (n := d.year) (k := 3) (by omega)).2 hyear
    rw [writeChars, List.length_append, List.length_append, length_paddedMonth, length_paddedDay]
    omega
  have hread : read (writeChars d) = .error .notEightDigits := by
    apply read_eq_notEightDigits
    rintro ⟨_, _, _, hparts⟩
    have height := hparts.length_eq
    omega
  simp [parse, write, hdigits.trim_eq, hread, Except.mapError]

/-- The text is the compact text of a date and is read back as it. -/
structure IsDateText (text : String) (d : Date) : Prop where
  denotes : Denotes text.toList d
  read : parse text = .ok d
  written : write d = text

/-- A date of year 1000 or later is written in eight digits. -/
theorem isDateText_write {d : Date} (hyear : 1000 ≤ d.year) : IsDateText (write d) d := by
  refine ⟨?_, parse_write hyear, rfl⟩
  rw [write, String.toList_ofList]
  exact denotes_writeChars hyear

end Compact
end Agenda
