import Agenda.Proofs.Recurrence.RuleReadings
/-!
# Writing rules and reading them back

The rules that can be read are the well-formed ones, and each of them is read back from its text.  A list of a
rule text stands for the numbers in it, in whatever order and however often they are written.

* `RuleShape.Written.trim_eq` — a text that has a shape has no blanks at its ends.
* `RuleText.written_writeChars` — the shape in which a well-formed rule is written, with its numbers in range.
* `RuleShape.SameEntries`, `RuleText.Rearranged` — the entries of the lists of a text in another order, or written
  more or less often.
* `RuleText.parse_rearranged` — the rule stays the same.
* `RuleText.parse_write_rule` — what comes of writing and reading rules.
-/

namespace Agenda

namespace RuleShape

/-! ## No blanks around a shape -/

theorem IsNumeralList.text_ne_nil {numeral : List Char → Int → Prop} {cs : List Char} {ns : List Int}
    (hns : IsNumeralList numeral cs ns) (hnumeral : ∀ ds n, numeral ds n → ds ≠ []) : cs ≠ [] := by
  obtain ⟨ps, hne, rfl, hps⟩ := hns
  cases hps with
  | nil => exact absurd rfl hne
  | @cons p n rest _ hp _ =>
      have hpne := hnumeral p n hp
      cases rest with
      | nil => exact hpne
      | cons q more =>
          show p ++ ',' :: Text.joined ',' (q :: more) ≠ []
          simp

theorem IsNumeral.ne_nil {longest : Nat} {cs : List Char} {n : Int} (hn : IsNumeral longest cs n) :
    cs ≠ [] :=
  List.length_pos_iff.1 hn.1.1

theorem IsSignedNumeral.ne_nil {cs : List Char} {n : Int} (hn : IsSignedNumeral cs n) : cs ≠ [] := by
  rcases hn with hplain | ⟨rest, rfl, -⟩
  · exact hplain.ne_nil
  · simp

theorem IsNumeral.not_isBlank {longest : Nat} {cs : List Char} {n : Int} (hn : IsNumeral longest cs n) :
    ∀ c ∈ cs, Text.isBlank c = false := by
  obtain ⟨-, ds, hds, -⟩ := hn
  exact hds.not_isBlank

theorem IsSignedNumeral.not_isBlank {cs : List Char} {n : Int} (hn : IsSignedNumeral cs n) :
    ∀ c ∈ cs, Text.isBlank c = false := by
  rcases hn with hplain | ⟨rest, rfl, hrest⟩
  · exact hplain.not_isBlank
  · intro c hin
    rcases List.mem_cons.1 hin with rfl | hin
    · decide
    · exact hrest.not_isBlank c hin

theorem IsNumeralList.not_isBlank {numeral : List Char → Int → Prop} {cs : List Char} {ns : List Int}
    (hns : IsNumeralList numeral cs ns) (hnumeral : ∀ ds n, numeral ds n → ∀ c ∈ ds, Text.isBlank c = false) :
    ∀ c ∈ cs, Text.isBlank c = false := by
  intro c hin
  by_contra hc
  have hblank : Text.isBlank c = true := by simpa using hc
  refine hns.not_mem ?_ (fun ds n hds hmem => hc (hnumeral ds n hds c hmem)) hin
  rintro rfl
  exact absurd hblank (by decide)

/-- No blank stands at an end of a text that has a shape. -/
theorem Written.trim_eq {cs : List Char} {shape : RuleShape} (h : Written cs shape) : Text.trim cs = cs := by
  cases h with
  | @daily cs n hn =>
      exact Text.trim_cons_append 'd' [' '] (by decide) hn.ne_nil hn.not_isBlank
  | yearly => decide
  | @weekly cs ns hns =>
      exact Text.trim_cons_append 'w' [' '] (by decide)
        (hns.text_ne_nil fun _ _ hn => hn.ne_nil) (hns.not_isBlank fun _ _ hn => hn.not_isBlank)
  | @everyMonth cs days hdays =>
      exact Text.trim_cons_append 'm' [' '] (by decide)
        (hdays.text_ne_nil fun _ _ hn => hn.ne_nil) (hdays.not_isBlank fun _ _ hn => hn.not_isBlank)
  | @inMonths cs cs' days months hdays hmonths =>
      have htrim := Text.trim_cons_append 'm' (' ' :: (cs ++ [' '])) (by decide)
        (hmonths.text_ne_nil fun _ _ hn => hn.ne_nil) (hmonths.not_isBlank fun _ _ hn => hn.not_isBlank)
      simpa using htrim

/-! ## Numbers in decimal -/

/-- A number that is not negative is written as a numeral, if it is small enough. -/
theorem isNumeral_signedDecimal {longest : Nat} {n : Int} (hlongest : 0 < longest) (hn : 0 ≤ n)
    (hlt : n < 10 ^ longest) : IsNumeral longest (Text.signedDecimal n) n := by
  obtain ⟨ds, hds, hvalue⟩ := Text.digits_decimal n.natAbs
  have hdecimal : Text.signedDecimal n = Text.decimal n.natAbs := if_neg (by omega)
  have hsmall : n.natAbs < 10 ^ longest := by
    have hcast : ((n.natAbs : Nat) : Int) < ((10 ^ longest : Nat) : Int) := by
      rw [Int.natAbs_of_nonneg hn]
      exact_mod_cast hlt
    exact_mod_cast hcast
  rw [hdecimal]
  refine ⟨⟨?_, (Text.length_decimal_le_iff hlongest).2 hsmall⟩, ds, hds, by omega⟩
  exact List.length_pos_iff.2 Nat.toDigits_ne_nil

/-- A number with at most two digits is written as a numeral with a sign or without one. -/
theorem isSignedNumeral_signedDecimal {n : Int} (hlow : -100 < n) (hhigh : n < 100) :
    IsSignedNumeral (Text.signedDecimal n) n := by
  by_cases hn : n < 0
  · refine Or.inr ⟨Text.decimal n.natAbs, if_pos hn, ?_⟩
    have hdecimal : Text.decimal n.natAbs = Text.signedDecimal (-n) := by
      rw [Text.signedDecimal, if_neg (by omega), Int.natAbs_neg]
    rw [hdecimal]
    exact isNumeral_signedDecimal (by decide) (by omega) (by norm_num; omega)
  · exact Or.inl (isNumeral_signedDecimal (by decide) (by omega) (by norm_num; omega))

theorem commaSeparated_eq_joined (ns : List Int) :
    RuleText.commaSeparated ns = Text.joined ',' (ns.map Text.signedDecimal) := by
  induction ns with
  | nil => rfl
  | cons n rest ih =>
      cases rest with
      | nil => rfl
      | cons m more =>
          show Text.signedDecimal n ++ ',' :: RuleText.commaSeparated (m :: more) = _
          rw [ih]
          rfl

/-- Numbers that are written as numerals make a list of them. -/
theorem isNumeralList_commaSeparated {numeral : List Char → Int → Prop} {ns : List Int} (hne : ns ≠ [])
    (hns : ∀ n ∈ ns, numeral (Text.signedDecimal n) n) :
    IsNumeralList numeral (RuleText.commaSeparated ns) ns := by
  refine ⟨ns.map Text.signedDecimal, by simpa using hne, commaSeparated_eq_joined ns, ?_⟩
  rw [List.forall₂_map_left_iff, List.forall₂_same]
  exact hns

/-- The days of a well-formed monthly rule are written as numerals. -/
theorem isNumeralList_days {days : List Int} (hdays : AscendingOf IsMonthDay days) :
    IsNumeralList IsSignedNumeral (RuleText.commaSeparated days) days := by
  refine isNumeralList_commaSeparated hdays.1 fun n hn => ?_
  have hday : (1 ≤ n ∧ n ≤ 31) ∨ n = -1 ∨ n = -2 := hdays.2.2 n hn
  exact isSignedNumeral_signedDecimal (by omega) (by omega)

/-! ## Lists with the same entries -/

/-- The same texts stand between the commas of both lists, in any order and any number of times. -/
def SameEntries (cs cs' : List Char) : Prop :=
  (∀ p ∈ Text.parts ',' cs, p ∈ Text.parts ',' cs') ∧ ∀ p ∈ Text.parts ',' cs', p ∈ Text.parts ',' cs

instance (cs cs' : List Char) : Decidable (SameEntries cs cs') := inferInstanceAs (Decidable (_ ∧ _))

/-- Lists with the same entries are read as lists of the same numbers. -/
theorem numbers_of_sameEntries {number : List Char → Option Int} {cs cs' : List Char} {ns : List Int}
    (hsame : SameEntries cs cs') (hns : numbers number cs = some ns) :
    ∃ ns', numbers number cs' = some ns' ∧ ∀ n, n ∈ ns' ↔ n ∈ ns := by
  obtain ⟨hall, rfl⟩ := mapM_eq_some_iff_filterMap.1 hns
  refine ⟨(Text.parts ',' cs').filterMap number, ?_, fun n => ?_⟩
  · exact mapM_eq_some_iff_filterMap.2 ⟨fun p hp => hall p (hsame.2 p hp), rfl⟩
  · rw [List.mem_filterMap, List.mem_filterMap]
    constructor
    · rintro ⟨p, hp, hn⟩
      exact ⟨p, hsame.2 p hp, hn⟩
    · rintro ⟨p, hp, hn⟩
      exact ⟨p, hsame.1 p hp, hn⟩

end RuleShape

/-- The ascending form of a list does not depend on the order of its numbers nor on how often they occur. -/
theorem IsAscendingFormOf.congr {sorted ns ns' : List Int} (h : IsAscendingFormOf sorted ns)
    (hsame : ∀ n, n ∈ ns' ↔ n ∈ ns) : IsAscendingFormOf sorted ns' :=
  ⟨h.1, fun n => (h.2 n).trans (hsame n).symm⟩

/-- An ascending list is its own ascending form. -/
theorem AscendingOf.isAscendingFormOf {p : Int → Prop} {ns : List Int} (h : AscendingOf p ns) :
    IsAscendingFormOf ns ns :=
  ⟨h.2.1, fun _ => Iff.rfl⟩

namespace RuleText

/-- A rule is read from a text exactly when the text has a shape with all numbers in range, which stands for
the rule. -/
theorem parse_eq_ok_iff {text : String} {rule : Rule} : parse text = .ok rule
    ↔ ∃ shape, RuleShape.Written (Text.trim text.toList) shape ∧ shape.InRange ∧ shape.Denotes rule :=
  (read_reading (Text.trim text.toList)).accepted rule

theorem parse_ofList {cs : List Char} {shape : RuleShape} {rule : Rule} (hwritten : RuleShape.Written cs shape)
    (hin : shape.InRange) (hdenotes : shape.Denotes rule) : parse (String.ofList cs) = .ok rule := by
  rw [parse_eq_ok_iff, String.toList_ofList, hwritten.trim_eq]
  exact ⟨shape, hwritten, hin, hdenotes⟩

/-! ## Writing and reading -/

open RuleShape in
/-- A well-formed rule is written in a shape that stands for it, with all numbers in range. -/
theorem written_writeChars {rule : Rule} (hrule : rule.WellFormed) :
    ∃ shape, RuleShape.Written (writeChars rule) shape ∧ shape.InRange ∧ shape.Denotes rule := by
  cases rule with
  | daily interval =>
      have hinterval : 1 ≤ interval ∧ interval ≤ 400 := hrule
      have hnumeral : IsNumeral 3 (Text.signedDecimal interval) interval :=
        isNumeral_signedDecimal (by decide) (by omega) (by norm_num; omega)
      exact ⟨.daily interval, .daily hnumeral, hrule, .daily interval⟩
  | yearly => exact ⟨.yearly, .yearly, trivial, .yearly⟩
  | weekly weekdays =>
      have hnumerals : IsNumeralList (IsNumeral 1) (commaSeparated weekdays) weekdays := by
        refine isNumeralList_commaSeparated hrule.1 fun n hn => ?_
        have hweekday : 1 ≤ n ∧ n ≤ 7 := hrule.2.2 n hn
        exact isNumeral_signedDecimal (by decide) (by omega) (by norm_num; omega)
      exact ⟨.weekly weekdays, .weekly hnumerals, hrule.2.2, .weekly hrule.isAscendingFormOf⟩
  | monthly days months =>
      obtain ⟨hdays, hmonths⟩ := hrule
      have hdayNumerals := isNumeralList_days hdays
      have hmonthNumerals : IsNumeralList (IsNumeral 2) (commaSeparated months) months := by
        refine isNumeralList_commaSeparated hmonths.1 fun n hn => ?_
        have hmonth : 1 ≤ n ∧ n ≤ 12 := hmonths.2.2 n hn
        exact isNumeral_signedDecimal (by decide) (by omega) (by norm_num; omega)
      refine ⟨.monthly days (some months), .inMonths hdayNumerals hmonthNumerals, ⟨hdays.2.2, ?_⟩,
        .inMonths hdays.isAscendingFormOf hmonths.isAscendingFormOf⟩
      rintro _ ⟨rfl⟩
      exact hmonths.2.2

theorem parse_write {rule : Rule} (hrule : rule.WellFormed) : parse (write rule) = .ok rule := by
  obtain ⟨shape, hwritten, hin, hdenotes⟩ := written_writeChars hrule
  exact parse_ofList hwritten hin hdenotes

/-- A rule with all months may be written without them. -/
theorem parse_everyMonth {days : List Int} (hdays : AscendingOf IsMonthDay days) :
    parse (String.ofList ('m' :: ' ' :: commaSeparated days)) = .ok (.monthly days allMonths) := by
  refine parse_ofList (.everyMonth (RuleShape.isNumeralList_days hdays)) ⟨hdays.2.2, ?_⟩
    (.everyMonth hdays.isAscendingFormOf)
  intro ms hms
  cases hms

/-! ## Lists in another order -/

open RuleShape

/-- The second text differs from the first one only in its lists, which have the same entries.  The days of a
monthly rule end at the first space. -/
inductive Rearranged : List Char → List Char → Prop
  | weekly {weekdays weekdays' : List Char} (hsame : SameEntries weekdays weekdays') :
      Rearranged ('w' :: ' ' :: weekdays) ('w' :: ' ' :: weekdays')
  | everyMonth {days days' : List Char} (hspace : ' ' ∉ days) (hsame : SameEntries days days') :
      Rearranged ('m' :: ' ' :: days) ('m' :: ' ' :: days')
  | inMonths {days days' months months' : List Char} (hspace : ' ' ∉ days) (hdays : SameEntries days days')
      (hmonths : SameEntries months months') :
      Rearranged ('m' :: ' ' :: (days ++ ' ' :: months)) ('m' :: ' ' :: (days' ++ ' ' :: months'))

/-- The lists of a monthly rule are found at the two sides of the first space. -/
theorem exists_lists_of_written {days months : List Char} {shape : RuleShape} (hspace : ' ' ∉ days)
    (h : Written ('m' :: ' ' :: (days ++ ' ' :: months)) shape) :
    ∃ ds ms, shape = .monthly ds (some ms) ∧ numbers signedNumber days = some ds
      ∧ numbers (digitsUpTo 2) months = some ms := by
  rw [← monthlyParts_eq_some_iff, monthlyParts, Text.parts_append_cons hspace] at h
  split at h
  · next hparts =>
      exact absurd (List.cons.inj hparts).2 (Text.parts_ne_nil ' ' months)
  · next hparts =>
      obtain ⟨rfl, hmonths⟩ := List.cons.inj hparts
      have hjoined := Text.joined_parts ' ' months
      rw [hmonths] at hjoined
      obtain ⟨ds, hds, h⟩ := Option.bind_eq_some_iff.1 h
      obtain ⟨ms, hms, h⟩ := Option.bind_eq_some_iff.1 h
      refine ⟨ds, ms, (Option.some.inj h).symm, hds, ?_⟩
      rw [← hjoined]
      exact hms
  · cases h

/-- A text whose lists are rearranged stands for the same rule. -/
theorem written_of_rearranged {t t' : List Char} {shape : RuleShape} {rule : Rule} (h : Rearranged t t')
    (hwritten : Written t shape) (hin : shape.InRange) (hdenotes : shape.Denotes rule) :
    ∃ shape', Written t' shape' ∧ shape'.InRange ∧ shape'.Denotes rule := by
  cases h with
  | weekly hsame =>
      cases hwritten with
      | weekly hns =>
          cases hdenotes with
          | weekly hweekdays =>
              obtain ⟨ns', hns', hmem⟩ := numbers_of_sameEntries hsame (weekdays_eq_some_iff.2 hns)
              exact ⟨.weekly ns', .weekly (weekdays_eq_some_iff.1 hns'), fun n hn => hin n ((hmem n).1 hn),
                .weekly (hweekdays.congr hmem)⟩
  | everyMonth hspace hsame =>
      cases hwritten with
      | inMonths => exact absurd (by simp) hspace
      | everyMonth hns =>
          cases hdenotes with
          | everyMonth hdays =>
              obtain ⟨ns', hns', hmem⟩ := numbers_of_sameEntries hsame (monthDays_eq_some_iff.2 hns)
              exact ⟨.monthly ns' none, .everyMonth (monthDays_eq_some_iff.1 hns'),
                ⟨fun n hn => hin.1 n ((hmem n).1 hn), hin.2⟩, .everyMonth (hdays.congr hmem)⟩
  | inMonths hspace hsameDays hsameMonths =>
      obtain ⟨ds, ms, rfl, hds, hms⟩ := exists_lists_of_written hspace hwritten
      cases hdenotes with
      | inMonths hdays hmonths =>
          obtain ⟨ds', hds', hmemDays⟩ := numbers_of_sameEntries hsameDays hds
          obtain ⟨ms', hms', hmemMonths⟩ := numbers_of_sameEntries hsameMonths hms
          refine ⟨.monthly ds' (some ms'),
            .inMonths (monthDays_eq_some_iff.1 hds') (months_eq_some_iff.1 hms'),
            ⟨fun n hn => hin.1 n ((hmemDays n).1 hn), ?_⟩,
            .inMonths (hdays.congr hmemDays) (hmonths.congr hmemMonths)⟩
          rintro _ ⟨rfl⟩ n hn
          exact hin.2 ms rfl n ((hmemMonths n).1 hn)

/-- Neither the order nor the number of times in which the entries of a list are written matters. -/
theorem parse_rearranged {text text' : String} {rule : Rule} (hparse : parse text = .ok rule)
    (h : Rearranged (Text.trim text.toList) (Text.trim text'.toList)) : parse text' = .ok rule := by
  obtain ⟨shape, hwritten, hin, hdenotes⟩ := parse_eq_ok_iff.1 hparse
  exact parse_eq_ok_iff.2 (written_of_rearranged h hwritten hin hdenotes)

/-- Exactly the well-formed rules are read back from their texts, and a monthly rule with all months also from its
text without them.  Every rule that is read is well-formed, so that it is read again from its own text.  The text
of a rule may have the entries of its lists in another order or more or less often: it denotes the same rule. -/
theorem parse_write_rule :
    (∀ rule : Rule, parse (write rule) = .ok rule ↔ rule.WellFormed)
    ∧ (∀ days : List Int, AscendingOf IsMonthDay days →
      parse (String.ofList ('m' :: ' ' :: commaSeparated days)) = .ok (.monthly days allMonths))
    ∧ (∀ (text : String) (rule : Rule), parse text = .ok rule →
      rule.WellFormed ∧ parse (write rule) = .ok rule)
    ∧ ∀ (text text' : String) (rule : Rule), parse text = .ok rule →
      Rearranged (Text.trim text.toList) (Text.trim text'.toList) → parse text' = .ok rule := by
  refine ⟨fun rule => ⟨wellFormed_of_parse, parse_write⟩, fun days => parse_everyMonth, ?_,
    fun text text' rule => parse_rearranged⟩
  intro text rule hparse
  have hrule := wellFormed_of_parse hparse
  exact ⟨hrule, parse_write hrule⟩

/-- Days and months in another order, some of them twice, and the rule as it is written. -/
theorem parse_write_rule_rearranged :
    let rule : Rule := .monthly [-2, -1, 31] [2, 12]
    (parse "\u2003m 31,-01,-2 12,2\n" = .ok rule ∧ parse (write rule) = .ok rule
      ∧ parse "m -2,31,-01,31,-2 2,12,2" = .ok rule)
      ∧ parse "m -2,-1,31" = .ok (.monthly [-2, -1, 31] allMonths) := by
  intro rule
  obtain ⟨-, hshort, hback, hrearranged⟩ := parse_write_rule
  have hparse : parse "\u2003m 31,-01,-2 12,2\n" = .ok rule := by decide +kernel
  have htrim : Text.trim "\u2003m 31,-01,-2 12,2\n".toList
      = 'm' :: ' ' :: ("31,-01,-2".toList ++ ' ' :: "12,2".toList) := by decide +kernel
  have htrim' : Text.trim "m -2,31,-01,31,-2 2,12,2".toList
      = 'm' :: ' ' :: ("-2,31,-01,31,-2".toList ++ ' ' :: "2,12,2".toList) := by decide +kernel
  have hsame : Rearranged (Text.trim "\u2003m 31,-01,-2 12,2\n".toList)
      (Text.trim "m -2,31,-01,31,-2 2,12,2".toList) := by
    rw [htrim, htrim']
    exact .inMonths (by decide) (by decide +kernel) (by decide +kernel)
  have hdays : String.ofList ('m' :: ' ' :: commaSeparated [-2, -1, 31]) = "m -2,-1,31" := by decide +kernel
  have heveryMonth := hshort [-2, -1, 31] (by decide)
  rw [hdays] at heveryMonth
  exact ⟨⟨hparse, (hback _ rule hparse).2, hrearranged _ _ rule hparse hsame⟩, heveryMonth⟩

end RuleText
end Agenda
