import Agenda.Proofs.Calendar.SignedDays
import Agenda.Proofs.Text.Numerals
import Agenda.Recurrence.RuleText
/-!
# The grammar of rule texts

Which texts have the shape of a rule, said as a grammar, and which rule such a text denotes.

* `RuleShape.Written` — the four shapes of a rule text.
* `RuleShape.read?_eq_some_iff` — the reader recognises exactly these shapes.
* `RuleShape.InRange`, `RuleShape.rule` — the shapes whose numbers are in range, and their rules.
* `RuleText.read_cases` — what is read from a text.
* `RuleText.wellFormed_of_parse` — a rule that is read has ascending lists of numbers in range.
-/

namespace Agenda
namespace RuleShape

/-! ## Numbers in a rule text -/

/-- A number that is written in at least one and at most so many ASCII digits. -/
def IsNumeral (longest : Nat) (cs : List Char) (n : Int) : Prop :=
  (1 ≤ cs.length ∧ cs.length ≤ longest) ∧ ∃ ds, Text.Digits cs ds ∧ n = Text.ofDigits ds

/-- A number of one or two digits, with or without a minus sign. -/
def IsSignedNumeral (cs : List Char) (n : Int) : Prop :=
  IsNumeral 2 cs n ∨ ∃ rest, cs = '-' :: rest ∧ IsNumeral 2 rest (-n)

/-- One number or several, with a comma between them. -/
def IsNumeralList (numeral : List Char → Int → Prop) (cs : List Char) (ns : List Int) : Prop :=
  ∃ ps, ps ≠ [] ∧ cs = Text.joined ',' ps ∧ List.Forall₂ numeral ps ns

/-- The four shapes of a rule text.  A monthly rule may leave out the months together with the space in
front of them. -/
inductive Written : List Char → RuleShape → Prop
  | daily {cs : List Char} {n : Int} (hn : IsNumeral 3 cs n) :
      Written ('d' :: ' ' :: cs) (.daily n)
  | yearly : Written ['y'] .yearly
  | weekly {cs : List Char} {ns : List Int} (hns : IsNumeralList (IsNumeral 1) cs ns) :
      Written ('w' :: ' ' :: cs) (.weekly ns)
  | everyMonth {cs : List Char} {days : List Int} (hdays : IsNumeralList IsSignedNumeral cs days) :
      Written ('m' :: ' ' :: cs) (.monthly days none)
  | inMonths {cs cs' : List Char} {days months : List Int}
      (hdays : IsNumeralList IsSignedNumeral cs days)
      (hmonths : IsNumeralList (IsNumeral 2) cs' months) :
      Written ('m' :: ' ' :: (cs ++ ' ' :: cs')) (.monthly days (some months))

/-- Digits, the minus sign and nothing else stand in a number. -/
theorem IsNumeral.not_mem {longest : Nat} {cs : List Char} {n : Int} (hn : IsNumeral longest cs n)
    {c : Char} (hc : Text.asciiDigit? c = none) : c ∉ cs := by
  obtain ⟨-, ds, hds, -⟩ := hn
  intro hin
  obtain ⟨d, hd⟩ := hds.asciiDigit?_of_mem c hin
  rw [hd] at hc
  cases hc

theorem IsSignedNumeral.not_mem {cs : List Char} {n : Int} (hn : IsSignedNumeral cs n) {c : Char}
    (hc : Text.asciiDigit? c = none) (hminus : c ≠ '-') : c ∉ cs := by
  rcases hn with hplain | ⟨rest, rfl, hrest⟩
  · exact hplain.not_mem hc
  · intro hin
    rcases List.mem_cons.1 hin with heq | hin'
    · exact hminus heq
    · exact hrest.not_mem hc hin'

/-- A character that stands in no number and is no comma does not stand in a list of numbers. -/
theorem IsNumeralList.not_mem {numeral : List Char → Int → Prop} {cs : List Char} {ns : List Int}
    (hns : IsNumeralList numeral cs ns) {c : Char} (hcomma : c ≠ ',')
    (hc : ∀ ds n, numeral ds n → c ∉ ds) : c ∉ cs := by
  obtain ⟨ps, -, rfl, hps⟩ := hns
  induction hps with
  | nil => simp [Text.joined]
  | @cons p n rest ns hp hrest ih =>
      cases rest with
      | nil => exact hc p n hp
      | cons q more =>
          show c ∉ p ++ ',' :: Text.joined ',' (q :: more)
          rw [List.mem_append, List.mem_cons]
          rintro (hin | heq | hin)
          · exact hc p n hp hin
          · exact hcomma heq
          · exact ih hin

theorem IsNumeralList.ne_nil {numeral : List Char → Int → Prop} {cs : List Char} {ns : List Int}
    (hns : IsNumeralList numeral cs ns) : ns ≠ [] := by
  obtain ⟨ps, hne, -, hps⟩ := hns
  rintro rfl
  rw [List.forall₂_nil_right_iff] at hps
  exact hne hps

/-! ## The reader and the grammar -/

theorem digitsUpTo_eq_some_iff {longest : Nat} {cs : List Char} {n : Int} :
    digitsUpTo longest cs = some n ↔ IsNumeral longest cs n := by
  unfold digitsUpTo IsNumeral
  by_cases hlength : cs ≠ [] ∧ cs.length ≤ longest
  · have hpos := List.length_pos_iff.2 hlength.1
    rw [if_pos hlength, Option.map_eq_some_iff]
    constructor
    · rintro ⟨ds, hds, hn⟩
      exact ⟨⟨hpos, hlength.2⟩, ds, Text.Digits.iff_mapM.2 hds, hn.symm⟩
    · rintro ⟨-, ds, hds, hn⟩
      exact ⟨ds, Text.Digits.iff_mapM.1 hds, hn.symm⟩
  · rw [if_neg hlength]
    constructor
    · intro h
      cases h
    · rintro ⟨⟨hpos, hle⟩, -⟩
      exact absurd ⟨List.length_pos_iff.1 hpos, hle⟩ hlength

theorem signedNumber_eq_some_iff {cs : List Char} {n : Int} :
    signedNumber cs = some n ↔ IsSignedNumeral cs n := by
  unfold signedNumber IsSignedNumeral
  split
  · next rest =>
      -- A minus sign is no digit.
      have hnot : ¬ IsNumeral 2 ('-' :: rest) n := fun hn =>
        hn.not_mem (c := '-') (by decide) (by simp)
      rw [Option.map_eq_some_iff]
      constructor
      · rintro ⟨m, hm, rfl⟩
        refine Or.inr ⟨rest, rfl, ?_⟩
        rw [Int.neg_neg]
        exact digitsUpTo_eq_some_iff.1 hm
      · rintro (hplain | ⟨rest', heq, hrest⟩)
        · exact absurd hplain hnot
        · obtain rfl := (List.cons.inj heq).2
          exact ⟨-n, digitsUpTo_eq_some_iff.2 hrest, Int.neg_neg n⟩
  · next hplain =>
      rw [digitsUpTo_eq_some_iff]
      constructor
      · exact Or.inl
      · rintro (hn | ⟨rest, rfl, -⟩)
        · exact hn
        · exact absurd rfl (hplain rest)

theorem numbers_eq_some_iff {number : List Char → Option Int} {numeral : List Char → Int → Prop}
    (hnumber : ∀ {cs n}, number cs = some n ↔ numeral cs n) (hcomma : ∀ cs n, numeral cs n → ',' ∉ cs)
    {cs : List Char} {ns : List Int} : numbers number cs = some ns ↔ IsNumeralList numeral cs ns := by
  have hrel : ∀ ps : List (List Char),
      ps.mapM number = some ns ↔ List.Forall₂ numeral ps ns := by
    intro ps
    rw [mapM_eq_some_iff]
    simp only [hnumber]
  unfold numbers
  rw [hrel]
  constructor
  · intro hps
    exact ⟨_, Text.parts_ne_nil ',' cs, (Text.joined_parts ',' cs).symm, hps⟩
  · rintro ⟨ps, hne, rfl, hps⟩
    -- Numbers have no comma in them, so that splitting at commas finds them again.
    have hfree : ∀ p ∈ ps, ',' ∉ p := by
      intro p hp
      obtain ⟨n, -, hn⟩ := exists_rel_of_mem hps p hp
      exact hcomma p n hn
    rw [Text.parts_joined hne hfree]
    exact hps

theorem weekdays_eq_some_iff {cs : List Char} {ns : List Int} :
    numbers (digitsUpTo 1) cs = some ns ↔ IsNumeralList (IsNumeral 1) cs ns :=
  numbers_eq_some_iff digitsUpTo_eq_some_iff fun _ _ hn => hn.not_mem (by decide)

theorem monthDays_eq_some_iff {cs : List Char} {ns : List Int} :
    numbers signedNumber cs = some ns ↔ IsNumeralList IsSignedNumeral cs ns :=
  numbers_eq_some_iff signedNumber_eq_some_iff fun _ _ hn => hn.not_mem (by decide) (by decide)

theorem months_eq_some_iff {cs : List Char} {ns : List Int} :
    numbers (digitsUpTo 2) cs = some ns ↔ IsNumeralList (IsNumeral 2) cs ns :=
  numbers_eq_some_iff digitsUpTo_eq_some_iff fun _ _ hn => hn.not_mem (by decide)

/-- What follows the letter of a monthly rule: days, and months after a space. -/
theorem monthlyParts_eq_some_iff {cs : List Char} {shape : RuleShape} :
    monthlyParts cs = some shape ↔ Written ('m' :: ' ' :: cs) shape := by
  -- No number has a space in it, so the parts of the text are its two lists.
  have hspaceDays : ∀ {ds : List Char} {days : List Int},
      IsNumeralList IsSignedNumeral ds days → ' ' ∉ ds := fun hdays =>
    hdays.not_mem (by decide) fun _ _ hn => hn.not_mem (by decide) (by decide)
  have hspaceMonths : ∀ {ms : List Char} {months : List Int},
      IsNumeralList (IsNumeral 2) ms months → ' ' ∉ ms := fun hmonths =>
    hmonths.not_mem (by decide) fun _ _ hn => hn.not_mem (by decide)
  unfold monthlyParts
  constructor
  · intro h
    have hjoined := Text.joined_parts ' ' cs
    split at h
    · next ds hparts =>
        rw [hparts] at hjoined
        obtain ⟨days, hdays, rfl⟩ := Option.map_eq_some_iff.1 h
        rw [← hjoined]
        exact Written.everyMonth (monthDays_eq_some_iff.1 hdays)
    · next ds ms hparts =>
        rw [hparts] at hjoined
        obtain ⟨days, hdays, h⟩ := Option.bind_eq_some_iff.1 h
        obtain ⟨months, hmonths, h⟩ := Option.bind_eq_some_iff.1 h
        obtain rfl := Option.some.inj h
        rw [← hjoined]
        exact Written.inMonths (monthDays_eq_some_iff.1 hdays) (months_eq_some_iff.1 hmonths)
    · cases h
  · intro h
    cases h with
    | everyMonth hdays =>
        rw [Text.parts_of_not_mem (hspaceDays hdays)]
        simp [monthDays_eq_some_iff.2 hdays]
    | inMonths hdays hmonths =>
        rw [Text.parts_append_cons (hspaceDays hdays), Text.parts_of_not_mem (hspaceMonths hmonths)]
        simp [monthDays_eq_some_iff.2 hdays, months_eq_some_iff.2 hmonths]

/-- The reader recognises exactly the shapes of the grammar. -/
theorem read?_eq_some_iff {cs : List Char} {shape : RuleShape} :
    read? cs = some shape ↔ Written cs shape := by
  unfold read?
  constructor
  · intro h
    split at h
    · obtain rfl := Option.some.inj h
      exact Written.yearly
    · obtain ⟨n, hn, rfl⟩ := Option.map_eq_some_iff.1 h
      exact Written.daily (digitsUpTo_eq_some_iff.1 hn)
    · obtain ⟨ns, hns, rfl⟩ := Option.map_eq_some_iff.1 h
      exact Written.weekly (weekdays_eq_some_iff.1 hns)
    · exact monthlyParts_eq_some_iff.1 h
    · cases h
  · intro h
    cases h with
    | daily hn => exact Option.map_eq_some_iff.2 ⟨_, digitsUpTo_eq_some_iff.2 hn, rfl⟩
    | yearly => rfl
    | weekly hns => exact Option.map_eq_some_iff.2 ⟨_, weekdays_eq_some_iff.2 hns, rfl⟩
    | everyMonth hdays => exact monthlyParts_eq_some_iff.2 (Written.everyMonth hdays)
    | inMonths hdays hmonths => exact monthlyParts_eq_some_iff.2 (Written.inMonths hdays hmonths)

/-- A text has one shape only. -/
theorem Written.unique {cs : List Char} {shape shape' : RuleShape} (hshape : Written cs shape)
    (hshape' : Written cs shape') : shape = shape' := by
  rw [← read?_eq_some_iff] at hshape hshape'
  rw [hshape] at hshape'
  exact Option.some.inj hshape'

/-! ## The numbers of a shape -/

/-- All numbers of a shape are in range. -/
def InRange : RuleShape → Prop
  | daily interval => IsInterval interval
  | yearly => True
  | weekly weekdays => ∀ n ∈ weekdays, IsWeekday n
  | monthly days months => (∀ n ∈ days, IsMonthDay n) ∧ ∀ ms, months = some ms → ∀ n ∈ ms, IsMonth n

/-- The rule of a shape: its numbers in ascending order, each once, and all months where none are
written. -/
def rule : RuleShape → Rule
  | daily interval => .daily interval
  | yearly => .yearly
  | weekly weekdays => .weekly (sortUnique weekdays)
  | monthly days none => .monthly (sortUnique days) allMonths
  | monthly days (some months) => .monthly (sortUnique days) (sortUnique months)

theorem firstFailing_eq_none_iff {p : Int → Prop} [DecidablePred p] {ns : List Int} :
    firstFailing p ns = none ↔ ∀ n ∈ ns, p n := by
  unfold firstFailing
  rw [List.find?_eq_none]
  simp

/-- The numbers of a shape are in range, and the shape has a rule; or one of them is not, and this number
is reported. -/
theorem check_cases (shape : RuleShape) :
    (shape.InRange ∧ shape.check = .ok shape.rule)
      ∨ (¬ shape.InRange ∧ ∃ which n, shape.check = .error (.outOfRange which n)) := by
  cases shape with
  | daily interval =>
      by_cases hinterval : IsInterval interval
      · exact Or.inl ⟨hinterval, if_pos hinterval⟩
      · exact Or.inr ⟨hinterval, .interval, interval, if_neg hinterval⟩
  | yearly => exact Or.inl ⟨trivial, rfl⟩
  | weekly weekdays =>
      cases hfailing : firstFailing IsWeekday weekdays with
      | none =>
          exact Or.inl ⟨firstFailing_eq_none_iff.1 hfailing, by simp [check, hfailing, rule]⟩
      | some n =>
          refine Or.inr ⟨fun hin => ?_, .weekday, n, by simp [check, hfailing]⟩
          rw [firstFailing_eq_none_iff.2 hin] at hfailing
          cases hfailing
  | monthly days months =>
      cases hfailing : firstFailing IsMonthDay days with
      | some n =>
          refine Or.inr ⟨fun hin => ?_, .monthDay, n, by simp [check, hfailing]⟩
          rw [firstFailing_eq_none_iff.2 hin.1] at hfailing
          cases hfailing
      | none =>
          have hdays := firstFailing_eq_none_iff.1 hfailing
          cases months with
          | none =>
              refine Or.inl ⟨⟨hdays, fun ms hms => ?_⟩, by simp [check, hfailing, rule]⟩
              cases hms
          | some ms =>
              cases hmonths : firstFailing IsMonth ms with
              | none =>
                  refine Or.inl ⟨⟨hdays, ?_⟩, by simp [check, hfailing, hmonths, rule]⟩
                  rintro _ ⟨rfl⟩
                  exact firstFailing_eq_none_iff.1 hmonths
              | some n =>
                  refine Or.inr ⟨fun hin => ?_, .month, n, by simp [check, hfailing, hmonths]⟩
                  rw [firstFailing_eq_none_iff.2 (hin.2 ms rfl)] at hmonths
                  cases hmonths

/-- Sorting makes an ascending list of numbers in range. -/
theorem ascendingOf_sortUnique {p : Int → Prop} {ns : List Int} (hne : ns ≠ [])
    (hns : ∀ n ∈ ns, p n) : AscendingOf p (sortUnique ns) := by
  refine ⟨?_, pairwise_sortUnique ns, fun n hn => hns n (mem_sortUnique.1 hn)⟩
  intro hempty
  obtain ⟨n, rest, rfl⟩ := List.exists_cons_of_ne_nil hne
  have hin : n ∈ sortUnique (n :: rest) := mem_sortUnique.2 (by simp)
  rw [hempty] at hin
  cases hin

theorem Written.wellFormed {cs : List Char} {shape : RuleShape} (hwritten : Written cs shape)
    (hin : shape.InRange) : shape.rule.WellFormed := by
  cases hwritten with
  | daily hn => exact hin
  | yearly => trivial
  | weekly hns => exact ascendingOf_sortUnique hns.ne_nil hin
  | everyMonth hdays =>
      have hall : AscendingOf IsMonth allMonths := by decide
      exact ⟨ascendingOf_sortUnique hdays.ne_nil hin.1, hall⟩
  | inMonths hdays hmonths =>
      exact ⟨ascendingOf_sortUnique hdays.ne_nil hin.1,
        ascendingOf_sortUnique hmonths.ne_nil (hin.2 _ rfl)⟩

end RuleShape

namespace RuleText

/-- A text that is not empty has none of the shapes, or a shape with a number out of range, or it denotes
the rule of its shape. -/
theorem read_cases {cs : List Char} (hcs : cs ≠ []) :
    ((¬ ∃ shape, RuleShape.Written cs shape) ∧ read cs = .error (.unsupported cs))
      ∨ ∃ shape, RuleShape.Written cs shape
        ∧ ((¬ shape.InRange ∧ ∃ which n, read cs = .error (.outOfRange which n))
          ∨ (shape.InRange ∧ read cs = .ok shape.rule)) := by
  unfold read
  rw [if_neg hcs]
  cases hread : RuleShape.read? cs with
  | none =>
      refine Or.inl ⟨?_, rfl⟩
      rintro ⟨shape, hshape⟩
      rw [RuleShape.read?_eq_some_iff.2 hshape] at hread
      cases hread
  | some shape =>
      refine Or.inr ⟨shape, RuleShape.read?_eq_some_iff.1 hread, ?_⟩
      rcases shape.check_cases with ⟨hin, hcheck⟩ | ⟨hout, which, n, hcheck⟩
      · exact Or.inr ⟨hin, hcheck⟩
      · exact Or.inl ⟨hout, which, n, hcheck⟩

/-- A rule is read from a text that has a shape with all numbers in range. -/
theorem exists_written_of_read {cs : List Char} {rule : Rule} (hread : read cs = .ok rule) :
    ∃ shape, RuleShape.Written cs shape ∧ shape.InRange ∧ shape.rule = rule := by
  have hcs : cs ≠ [] := by
    rintro rfl
    exact absurd hread (by simp [read])
  rcases read_cases hcs with ⟨-, herror⟩ | ⟨shape, hshape, ⟨-, which, n, herror⟩ | ⟨hin, hok⟩⟩
  · rw [herror] at hread
    cases hread
  · rw [herror] at hread
    cases hread
  · rw [hok] at hread
    exact ⟨shape, hshape, hin, Except.ok.inj hread⟩

theorem wellFormed_of_read {cs : List Char} {rule : Rule} (hread : read cs = .ok rule) :
    rule.WellFormed := by
  obtain ⟨shape, hwritten, hin, rfl⟩ := exists_written_of_read hread
  exact hwritten.wellFormed hin

theorem wellFormed_of_parse {text : String} {rule : Rule} (hparse : parse text = .ok rule) :
    rule.WellFormed :=
  wellFormed_of_read hparse

end RuleText
end Agenda
