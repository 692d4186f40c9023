import Agenda.Proofs.Recurrence.RuleGrammar
import Agenda.Proofs.Text.Trimming
import Mathlib.Data.List.Sort
/-!
# What is read from a rule text

The grammar of rule texts decides what reading a text gives: a rule, or the reason why there is none.
Nothing here is said through the reader itself.

* `RuleShape.Denotes` — the rule that the numbers of a shape stand for: the same numbers, ascending.
* `RuleShape.FirstOutOfRange` — the number of a shape that is reported as out of range.
* `RuleText.Reading` — when each outcome arises.
* `RuleText.parse_reading` — every text is read in this way.
-/

namespace Agenda

/-- The list holds the same numbers as another one, in ascending order and each once. -/
def IsAscendingFormOf (sorted ns : List Int) : Prop :=
  sorted.Pairwise (· < ·) ∧ ∀ n, n ∈ sorted ↔ n ∈ ns

/-- The number lacks a property that all numbers before it in a list have. -/
def IsFirstWithout (p : Int → Prop) (ns : List Int) (n : Int) : Prop :=
  ∃ before after, ns = before ++ n :: after ∧ (∀ m ∈ before, p m) ∧ ¬ p n

theorem isAscendingFormOf_iff {sorted ns : List Int} :
    IsAscendingFormOf sorted ns ↔ sorted = sortUnique ns := by
  constructor
  · rintro ⟨hsorted, hmem⟩
    apply hsorted.eq_of_mem_iff (pairwise_sortUnique ns)
    intro n
    rw [hmem n, mem_sortUnique]
  · rintro rfl
    exact ⟨pairwise_sortUnique ns, fun _ => mem_sortUnique⟩

namespace RuleShape

theorem firstFailing_eq_some_iff {p : Int → Prop} [DecidablePred p] {ns : List Int} {n : Int} :
    firstFailing p ns = some n ↔ IsFirstWithout p ns n := by
  unfold firstFailing IsFirstWithout
  rw [List.find?_eq_some_iff_append]
  simp only [Bool.not_eq_true', decide_eq_false_iff_not, Bool.not_not, decide_eq_true_eq]
  constructor
  · rintro ⟨hn, before, after, hsplit, hbefore⟩
    exact ⟨before, after, hsplit, hbefore, hn⟩
  · rintro ⟨before, after, hsplit, hbefore, hn⟩
    exact ⟨hn, before, after, hsplit, hbefore⟩

/-- The rule that a shape stands for.  It has exactly the numbers that are written, in ascending order; where
no months are written it has all of them. -/
inductive Denotes : RuleShape → Rule → Prop
  | daily (interval : Int) : Denotes (.daily interval) (.daily interval)
  | yearly : Denotes .yearly .yearly
  | weekly {written weekdays : List Int} (hweekdays : IsAscendingFormOf weekdays written) :
      Denotes (.weekly written) (.weekly weekdays)
  | everyMonth {written days : List Int} (hdays : IsAscendingFormOf days written) :
      Denotes (.monthly written none) (.monthly days [1, 2, 3, 4, 5, 6, 7, 8, 9, 10, 11, 12])
  | inMonths {written days written' months : List Int} (hdays : IsAscendingFormOf days written)
      (hmonths : IsAscendingFormOf months written') :
      Denotes (.monthly written (some written')) (.monthly days months)

/-- The first number of a shape that is out of range, in the order in which the numbers are written.  The
months of a monthly rule count only when all its days are in range. -/
inductive FirstOutOfRange : RuleShape → RuleNumber → Int → Prop
  | interval {n : Int} (hn : ¬ IsInterval n) : FirstOutOfRange (.daily n) .interval n
  | weekday {ns : List Int} {n : Int} (hn : IsFirstWithout IsWeekday ns n) :
      FirstOutOfRange (.weekly ns) .weekday n
  | monthDay {days : List Int} {months : Option (List Int)} {n : Int}
      (hn : IsFirstWithout IsMonthDay days n) : FirstOutOfRange (.monthly days months) .monthDay n
  | month {days months : List Int} {n : Int} (hdays : ∀ d ∈ days, IsMonthDay d)
      (hn : IsFirstWithout IsMonth months n) :
      FirstOutOfRange (.monthly days (some months)) .month n

theorem denotes_iff {shape : RuleShape} {rule : Rule} : shape.Denotes rule ↔ rule = shape.rule := by
  constructor
  · intro h
    cases h with
    | daily interval => rfl
    | yearly => rfl
    | weekly hweekdays => rw [RuleShape.rule, isAscendingFormOf_iff.1 hweekdays]
    | everyMonth hdays => rw [RuleShape.rule, isAscendingFormOf_iff.1 hdays, allMonths]
    | inMonths hdays hmonths =>
        rw [RuleShape.rule, isAscendingFormOf_iff.1 hdays, isAscendingFormOf_iff.1 hmonths]
  · rintro rfl
    cases shape with
    | daily interval => exact Denotes.daily interval
    | yearly => exact Denotes.yearly
    | weekly written => exact Denotes.weekly (isAscendingFormOf_iff.2 rfl)
    | monthly written months =>
        cases months with
        | none => exact Denotes.everyMonth (isAscendingFormOf_iff.2 rfl)
        | some written' =>
            exact Denotes.inMonths (isAscendingFormOf_iff.2 rfl) (isAscendingFormOf_iff.2 rfl)

/-- A rule comes out exactly when all numbers are in range and it is the rule of the shape. -/
theorem check_eq_ok_iff {shape : RuleShape} {rule : Rule} :
    shape.check = .ok rule ↔ shape.InRange ∧ shape.Denotes rule := by
  rw [denotes_iff]
  rcases shape.check_cases with ⟨hin, hcheck⟩ | ⟨hout, which, n, hcheck⟩
  · simp [hcheck, hin, eq_comm]
  · simp [hcheck, hout]

/-- A number is reported exactly when it is the first one that is out of range. -/
theorem check_eq_error_iff {shape : RuleShape} {which : RuleNumber} {n : Int} :
    shape.check = .error (.outOfRange which n) ↔ shape.FirstOutOfRange which n := by
  constructor
  · intro h
    cases shape with
    | daily interval =>
        simp only [check] at h
        split at h
        · cases h
        · next hinterval =>
            cases h
            exact FirstOutOfRange.interval hinterval
    | yearly => cases h
    | weekly weekdays =>
        simp only [check] at h
        split at h
        · next m hm =>
            cases h
            exact FirstOutOfRange.weekday (firstFailing_eq_some_iff.1 hm)
        · cases h
    | monthly days months =>
        simp only [check] at h
        split at h
        · next m hm =>
            cases h
            exact FirstOutOfRange.monthDay (firstFailing_eq_some_iff.1 hm)
        · next hdays =>
            split at h
            · cases h
            · next ms =>
                split at h
                · next m hm =>
                    cases h
                    exact FirstOutOfRange.month (firstFailing_eq_none_iff.1 hdays)
                      (firstFailing_eq_some_iff.1 hm)
                · cases h
  · intro h
    cases h with
    | interval hn => simp [check, hn]
    | weekday hn => simp [check, firstFailing_eq_some_iff.2 hn]
    | monthDay hn => simp [check, firstFailing_eq_some_iff.2 hn]
    | month hdays hn =>
        simp [check, firstFailing_eq_none_iff.2 hdays, firstFailing_eq_some_iff.2 hn]

/-- Some number of a shape is reported unless all of them are in range. -/
theorem exists_firstOutOfRange_iff {shape : RuleShape} :
    (∃ which n, shape.FirstOutOfRange which n) ↔ ¬ shape.InRange := by
  simp only [← check_eq_error_iff]
  rcases shape.check_cases with ⟨hin, hcheck⟩ | ⟨hout, which, n, hcheck⟩
  · simp [hcheck, hin]
  · simp [hcheck, hout]

end RuleShape

namespace RuleText

/-- What reading a trimmed text gives.  A text has at most one of the shapes; it is empty, or it has no
shape, or the numbers of its shape decide between a rule and the first number that is out of range. -/
structure Reading (t : List Char) (answer : Except RuleTextError Rule) : Prop where
  oneShape : ∀ shape shape', RuleShape.Written t shape → RuleShape.Written t shape' → shape = shape'
  empty : answer = .error .empty ↔ t = []
  unsupported : answer = .error (.unsupported t) ↔ t ≠ [] ∧ ¬ ∃ shape, RuleShape.Written t shape
  accepted : ∀ rule, answer = .ok rule
    ↔ ∃ shape, RuleShape.Written t shape ∧ shape.InRange ∧ shape.Denotes rule
  rejected : (∃ which n, answer = .error (.outOfRange which n))
    ↔ ∃ shape, RuleShape.Written t shape ∧ ¬ shape.InRange
  firstOutOfRange : ∀ which n, answer = .error (.outOfRange which n)
    ↔ ∃ shape, RuleShape.Written t shape ∧ shape.FirstOutOfRange which n

theorem read_reading (t : List Char) : Reading t (read t) := by
  have hone : ∀ shape shape', RuleShape.Written t shape → RuleShape.Written t shape' → shape = shape' :=
    fun _ _ hshape hshape' => hshape.unique hshape'
  by_cases hempty : t = []
  · subst hempty
    have hnone : ∀ shape, ¬ RuleShape.Written [] shape := by
      intro shape hshape
      cases hshape
    constructor <;> simp [read, hnone]
  · cases hread : RuleShape.read? t with
    | none =>
        have hnone : ∀ shape, ¬ RuleShape.Written t shape := by
          intro shape hshape
          rw [← RuleShape.read?_eq_some_iff, hread] at hshape
          cases hshape
        constructor <;> simp [read, hempty, hread, hnone]
    | some shape =>
        -- The text has this shape only, so that each outcome is one of the check of its numbers.
        have honly : ∀ shape', RuleShape.Written t shape' ↔ shape' = shape := by
          intro shape'
          rw [← RuleShape.read?_eq_some_iff, hread, Option.some.injEq, eq_comm]
        have hanswer : read t = shape.check := by simp [read, hempty, hread]
        rw [hanswer]
        refine ⟨hone, ?_, ?_, ?_, ?_, ?_⟩
        · rcases shape.check_cases with ⟨-, hcheck⟩ | ⟨-, which, n, hcheck⟩ <;> simp [hcheck, hempty]
        · rcases shape.check_cases with ⟨-, hcheck⟩ | ⟨-, which, n, hcheck⟩ <;> simp [hcheck, honly]
        · simp [honly, RuleShape.check_eq_ok_iff]
        · simp [honly, RuleShape.check_eq_error_iff, RuleShape.exists_firstOutOfRange_iff]
        · simp [honly, RuleShape.check_eq_error_iff]

/-- Reading any text, blanks around it aside, ends as the grammar decides. -/
theorem parse_reading (text : String) :
    ∃ t, Text.Stripped text.toList t ∧ Reading t (parse text) :=
  ⟨Text.trim text.toList, Text.stripped_trim text.toList, read_reading (Text.trim text.toList)⟩

/-- Leading zeros count as digits, days are looked at before months, and other digits are none. -/
example : parse "\u2003m 31,-02,1,1 012" = .error (.unsupported "m 31,-02,1,1 012".toList)
    ∧ parse "m 31,-02,1,1 07,7 " = .ok (.monthly [-2, 1, 31] [7])
    ∧ parse "m 1,-0,40 13" = .error (.outOfRange .monthDay 0) := by
  decide +kernel

end RuleText
end Agenda
