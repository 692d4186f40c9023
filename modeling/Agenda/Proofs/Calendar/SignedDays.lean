import Agenda.Calendar.MonthDays
import Agenda.Proofs.Calendar.DayNumbers
import Agenda.Proofs.PartialFunctions
/-!
# What signed days stand for

In a month of the calendar every signed day that is not further from the end than the month is long
stands for one day number, and looking it up never fails.

* `mem_sortUnique`, `pairwise_sortUnique` — the ascending list of a list of numbers.
* `find?_isLeast` — searching an ascending list.
* `Date.ofFields_eq_ok_iff` — a date is built exactly from its own parts.
* `lastDayOfMonth_eq` — the last day of a month is its length.
* `resolveDay_eq` — `-1` is the last day, `-2` the day before it, and so on back to the first.
* `resolveDays_spec` — the days of a list, ascending.
-/

namespace Agenda

/-! ## Ascending lists -/

@[simp] theorem mem_insertUnique {m n : Int} {ns : List Int} :
    m ∈ insertUnique n ns ↔ m = n ∨ m ∈ ns := by
  induction ns with
  | nil => simp [insertUnique]
  | cons k rest ih =>
      unfold insertUnique
      by_cases hless : n < k
      · simp [hless]
      · by_cases heq : n = k
        · subst heq
          simp
        · simp only [if_neg hless, if_neg heq, List.mem_cons, ih]
          tauto

theorem pairwise_insertUnique {n : Int} {ns : List Int} (hns : ns.Pairwise (· < ·)) :
    (insertUnique n ns).Pairwise (· < ·) := by
  induction ns with
  | nil => simp [insertUnique]
  | cons k rest ih =>
      obtain ⟨hk, hrest⟩ := List.pairwise_cons.1 hns
      unfold insertUnique
      by_cases hless : n < k
      · rw [if_pos hless]
        refine List.pairwise_cons.2 ⟨?_, hns⟩
        intro m hm
        rcases List.mem_cons.1 hm with rfl | hmem
        · exact hless
        · exact lt_trans hless (hk m hmem)
      · by_cases heq : n = k
        · rw [if_neg hless, if_pos heq]
          exact hns
        · rw [if_neg hless, if_neg heq]
          refine List.pairwise_cons.2 ⟨?_, ih hrest⟩
          intro m hm
          rcases mem_insertUnique.1 hm with rfl | hmem
          · omega
          · exact hk m hmem

@[simp] theorem mem_sortUnique {m : Int} {ns : List Int} : m ∈ sortUnique ns ↔ m ∈ ns := by
  induction ns with
  | nil => simp [sortUnique]
  | cons n rest ih =>
      show m ∈ insertUnique n (sortUnique rest) ↔ m ∈ n :: rest
      rw [mem_insertUnique, ih, List.mem_cons]

theorem pairwise_sortUnique (ns : List Int) : (sortUnique ns).Pairwise (· < ·) := by
  induction ns with
  | nil => exact List.Pairwise.nil
  | cons n rest ih => exact pairwise_insertUnique ih

/-- A search through an ascending list finds the least element with a property. -/
theorem find?_isLeast {p : Int → Bool} {n : Int} {ns : List Int} (hns : ns.Pairwise (· < ·))
    (hfind : ns.find? p = some n) : n ∈ ns ∧ p n = true ∧ ∀ m ∈ ns, p m = true → n ≤ m := by
  obtain ⟨hn, before, after, hsplit, hbefore⟩ := List.find?_eq_some_iff_append.1 hfind
  subst hsplit
  refine ⟨by simp, hn, ?_⟩
  intro m hm hpm
  -- Nothing before the element that is found has the property; what follows it is greater.
  rcases List.mem_append.1 hm with hin | hin
  · have hnot := hbefore m hin
    simp [hpm] at hnot
  · rw [List.pairwise_append] at hns
    rcases List.mem_cons.1 hin with rfl | hlater
    · exact le_refl _
    · exact ((List.pairwise_cons.1 hns.2.1).1 m hlater).le

/-! ## Dates from their parts -/

namespace Date

/-- A date is built from three integers exactly when they are its parts. -/
theorem ofFields_eq_ok_iff {year month day : Int} {d : Date} :
    ofFields year month day = .ok d
      ↔ (d.year : Int) = year ∧ (d.month : Int) = month ∧ (d.day : Int) = day := by
  have hyear := d.one_le_year
  have hyearLast := d.year_le
  have hmonth := d.month_bounds
  have hday := d.day_bounds
  have hdayLast := d.day_le
  unfold ofFields
  constructor
  · intro h
    split at h
    · cases h
    · split at h
      · cases h
      · split at h
        · cases h
        · split at h
          · cases h
          · split at h
            · next e he =>
                obtain rfl := Except.ok.inj h
                obtain ⟨hy, hm, hd⟩ := ofParts?_eq_some_iff.1 he
                omega
            · cases h
  · rintro ⟨rfl, rfl, rfl⟩
    -- The parts of a date are far smaller than what the fields can hold.
    have hfits : ¬ ¬ (fitsField (d.year : Int) = true ∧ fitsField (d.month : Int) = true
        ∧ fitsField (d.day : Int) = true) := by
      simp only [fitsField, Bool.and_eq_true, decide_eq_true_eq, not_not]
      omega
    rw [if_neg hfits, if_neg (by omega), if_neg (by omega), if_neg (by omega)]
    simp [ofParts?_parts]

/-- The year after the last one has no dates. -/
theorem ofFields_after_lastYear {month : Int} (hmonth : 1 ≤ month ∧ month ≤ 12) :
    ofFields 10000 month 1 = .error (.noSuchYear 10000) := by
  have hfits : ¬ ¬ (fitsField 10000 = true ∧ fitsField month = true ∧ fitsField 1 = true) := by
    simp only [fitsField, Bool.and_eq_true, decide_eq_true_eq, not_not]
    omega
  unfold ofFields
  rw [if_neg hfits, if_pos (by omega)]

end Date

/-! ## Days counted from the end of a month -/

section Month

variable {year month : Nat} (hyear : 1 ≤ year ∧ year ≤ 9999) (hmonth : 1 ≤ month ∧ month ≤ 12)
include hyear hmonth

/-- The last date of a month. -/
theorem monthEnd_eq : ∃ d : Date, monthEnd year month = .ok d ∧ d.year = year ∧ d.month = month
    ∧ d.day = monthLength year month := by
  have hbounds := monthLength_bounds year month
  have hlength : 1 ≤ monthLength year month := by omega
  have hfirst : IsDate year month 1 := ⟨hyear, hmonth, Nat.le_refl 1, hlength⟩
  have hlast : IsDate year month (monthLength year month) :=
    ⟨hyear, hmonth, hlength, Nat.le_refl _⟩
  refine ⟨⟨year, month, monthLength year month, hlast⟩, ?_, rfl, rfl, rfl⟩
  have hbegin : Date.ofFields year month 1 = .ok ⟨year, month, 1, hfirst⟩ :=
    Date.ofFields_eq_ok_iff.2 ⟨rfl, rfl, rfl⟩
  unfold monthEnd
  rw [hbegin]
  exact Date.ofFields_eq_ok_iff.2 ⟨rfl, rfl, rfl⟩

theorem lastDayOfMonth_eq : lastDayOfMonth year month = .ok (monthLength year month) := by
  obtain ⟨d, hd, -, -, hday⟩ := monthEnd_eq hyear hmonth
  unfold lastDayOfMonth
  rw [hd, ← hday]
  rfl

/-- A negative day is counted back from the first day of the following month; any other day stands for
itself. -/
theorem resolveDay_eq {day : Int} (hday : -(monthLength year month : Int) ≤ day) :
    resolveDay year month day
      = .ok (if day < 0 then (monthLength year month : Int) + 1 + day else day) := by
  unfold resolveDay
  by_cases hnegative : day < 0
  · obtain ⟨d, hd, hdyear, hdmonth, hdday⟩ := monthEnd_eq hyear hmonth
    -- Moving back from the last day by less than the length of the month stays within the month.
    have htarget : IsDate year month ((monthLength year month : Int) + 1 + day).toNat :=
      ⟨hyear, hmonth, by omega, by omega⟩
    have hmove : d.addDays (day + 1)
        = .ok ⟨year, month, ((monthLength year month : Int) + 1 + day).toNat, htarget⟩ := by
      rw [Date.addDays_eq_ok_iff, Date.dayNumber_eq, Date.dayNumber_eq, hdyear, hdmonth, hdday]
      unfold dayNumberOf
      push_cast
      omega
    rw [if_pos hnegative, if_pos hnegative, hd]
    show (d.addDays (day + 1)).bind (fun resolved => .ok (resolved.day : Int)) = _
    rw [hmove]
    show Except.ok (((monthLength year month : Int) + 1 + day).toNat : Int) = Except.ok _
    congr 1
    omega
  · rw [if_neg hnegative, if_neg hnegative]
    rfl

end Month

/-- The days that signed days stand for: the listed days themselves and, for negative ones, the days
counted back from the end of the month. -/
theorem resolveDays_spec {year month : Nat} (hyear : 1 ≤ year ∧ year ≤ 9999)
    (hmonth : 1 ≤ month ∧ month ≤ 12) {days : List Int}
    (hdays : ∀ day ∈ days, -(monthLength year month : Int) ≤ day) :
    ∃ resolved, resolveDays days year month = .ok resolved ∧ resolved.Pairwise (· < ·)
      ∧ ∀ x, x ∈ resolved ↔ (0 ≤ x ∧ x ∈ days)
          ∨ ∃ day ∈ days, day < 0 ∧ x = (monthLength year month : Int) + 1 + day := by
  have hall : days.mapM (resolveDay year month) = .ok (days.map fun day =>
      if day < 0 then (monthLength year month : Int) + 1 + day else day) :=
    mapM_eq_ok_map fun day hday => resolveDay_eq hyear hmonth (hdays day hday)
  refine ⟨sortUnique (days.map fun day =>
    if day < 0 then (monthLength year month : Int) + 1 + day else day), ?_, pairwise_sortUnique _, ?_⟩
  · unfold resolveDays
    rw [hall]
    rfl
  · intro x
    rw [mem_sortUnique, List.mem_map]
    constructor
    · rintro ⟨day, hday, hx⟩
      by_cases hnegative : day < 0
      · rw [if_pos hnegative] at hx
        exact Or.inr ⟨day, hday, hnegative, hx.symm⟩
      · rw [if_neg hnegative] at hx
        subst hx
        exact Or.inl ⟨by omega, hday⟩
    · rintro (⟨hx, hmem⟩ | ⟨day, hday, hnegative, hx⟩)
      · exact ⟨x, hmem, by rw [if_neg (by omega)]⟩
      · exact ⟨day, hday, by rw [if_pos hnegative, hx]⟩

end Agenda
