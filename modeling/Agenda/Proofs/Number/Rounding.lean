import Agenda.Number.Binary64
import Mathlib.Algebra.Order.Field.Power
import Mathlib.Data.Rat.Floor
import Mathlib.Tactic.FieldSimp
import Mathlib.Tactic.Linarith
import Mathlib.Tactic.Positivity
/-!
# Rounding to 53 significant bits

How far a number is from the nearest one with 53 significant bits.

* `abs_roundToEven_sub_le` — rounding to an integer errs by one half at most.
* `intCast_le_roundToEven`, `roundToEven_le_intCast` — it does not pass over an integer.
* `Binary64.two_zpow_exponentOf_le` — the exponent of a number is not too large.
* `Binary64.nearest_neg` — a number and its opposite are rounded alike.
* `Binary64.nearest_intCast` — integers below `2 ^ 53` are kept.
* `Binary64.abs_nearest_sub_le` — below a power of two the error is a fixed fraction of it.
-/

namespace Agenda

theorem roundToEven_intCast (k : Int) : roundToEven k = k := by
  unfold roundToEven
  simp only [Rat.floor_intCast, sub_self]
  rw [if_pos (by norm_num)]

/-- Rounding to an integer errs by one half at most. -/
theorem abs_roundToEven_sub_le (q : Rat) : |(roundToEven q : Rat) - q| ≤ 1 / 2 := by
  have hlow : (q.floor : Rat) ≤ q := Rat.floor_le q
  have hhigh : q < q.floor + 1 := by exact_mod_cast Rat.lt_floor_add_one q
  unfold roundToEven
  simp only
  rw [abs_le]
  split
  · constructor <;> linarith
  · split
    · push_cast
      constructor <;> linarith
    · split
      · constructor <;> linarith
      · push_cast
        constructor <;> linarith

/-- An integer that is not above a number is not above what the number is rounded to. -/
theorem intCast_le_roundToEven {k : Int} {q : Rat} (hk : (k : Rat) ≤ q) : k ≤ roundToEven q := by
  have hfloor : k ≤ q.floor := Rat.le_floor_iff.2 hk
  unfold roundToEven
  simp only
  split
  · exact hfloor
  · split
    · omega
    · split <;> omega

/-- An integer that is not below a number is not below what the number is rounded to. -/
theorem roundToEven_le_intCast {k : Int} {q : Rat} (hk : q ≤ k) : roundToEven q ≤ k := by
  have hfloor : q.floor ≤ k := by
    exact_mod_cast (Rat.floor_le q).trans hk
  rcases hfloor.lt_or_eq with hbelow | hself
  · unfold roundToEven
    simp only
    split
    · exact hfloor
    · split
      · omega
      · split <;> omega
  · -- The number lies between its own floor and that floor, so that it is an integer.
    have hq : q = k := le_antisymm hk (hself ▸ Rat.floor_le q)
    rw [hq, roundToEven_intCast]

namespace Binary64

theorem powerOfTwo_eq (e : Int) : powerOfTwo e = (2 : Rat) ^ e := by
  unfold powerOfTwo
  split
  · next he =>
      obtain ⟨n, rfl⟩ := Int.eq_ofNat_of_zero_le he
      simp
  · next he =>
      obtain ⟨n, hn⟩ := Int.eq_ofNat_of_zero_le (show 0 ≤ -e by omega)
      obtain rfl : e = -(n : Int) := by omega
      simp

/-- The exponent belongs to a power of two that is not above the number. -/
theorem two_zpow_exponentOf_le {q : Rat} (hq : 0 < q) : (2 : Rat) ^ exponentOf q ≤ q := by
  unfold exponentOf
  simp only [powerOfTwo_eq]
  split
  · -- The numerator is at least its power of two, and the denominator is below the next one.
    have hnum : 0 < q.num := Rat.num_pos.2 hq
    have hnumerator : (2 : Rat) ^ q.num.toNat.log2 ≤ q.num := by
      have hle := Nat.log2_self_le (n := q.num.toNat) (by omega)
      have hcast : ((q.num.toNat : Int) : Rat) = q.num := by
        rw [Int.toNat_of_nonneg hnum.le]
      rw [← hcast]
      exact_mod_cast hle
    have hdenominator : (q.den : Rat) ≤ 2 ^ (q.den.log2 + 1) := by
      exact_mod_cast (Nat.lt_log2_self (n := q.den)).le
    have hden : (0 : Rat) < q.den := by
      exact_mod_cast q.den_pos
    calc (2 : Rat) ^ ((q.num.toNat.log2 : Int) - q.den.log2 - 1)
        = 2 ^ q.num.toNat.log2 / 2 ^ (q.den.log2 + 1) := by
          rw [sub_sub, zpow_sub₀ (by norm_num)]
          norm_cast
      _ ≤ q.num / q.den := div_le_div₀ (by exact_mod_cast hnum.le) hnumerator hden hdenominator
      _ = q := Rat.num_div_den q
  · next hle => exact not_lt.1 hle

/-- Below a power of two the spacing is a power of one half. -/
theorem exists_spacing_eq {q : Rat} (hq : 0 < q) {n : Nat} (hn : n ≤ 53) (hlt : q < 2 ^ n) :
    ∃ j : Nat, 53 ≤ n + j ∧ spacing q = 1 / 2 ^ j := by
  have hexponent : exponentOf q < n := by
    have hpower : (2 : Rat) ^ exponentOf q < 2 ^ (n : Int) :=
      (two_zpow_exponentOf_le hq).trans_lt (by exact_mod_cast hlt)
    exact (zpow_lt_zpow_iff_right₀ (by norm_num)).1 hpower
  obtain ⟨j, hj⟩ := Int.eq_ofNat_of_zero_le (show 0 ≤ -max (exponentOf q - 52) (-1074) by omega)
  refine ⟨j, by omega, ?_⟩
  have hneg : max (exponentOf q - 52) (-1074) = -(j : Int) := by
    omega
  rw [spacing, powerOfTwo_eq, hneg, zpow_neg, zpow_natCast, one_div]

theorem nearestPositive_intCast {k : Int} (hpos : 0 < k) (hk : k < 2 ^ 53) :
    nearestPositive k = k := by
  obtain ⟨j, -, hspacing⟩ := exists_spacing_eq (q := k) (n := 53) (by exact_mod_cast hpos) (Nat.le_refl _)
    (by exact_mod_cast hk)
  have hscaled : (k : Rat) / (1 / 2 ^ j) = ((k * 2 ^ j : Int) : Rat) := by
    push_cast
    field_simp
  rw [nearestPositive, hspacing, hscaled, roundToEven_intCast]
  push_cast
  field_simp

theorem abs_nearestPositive_sub_le {q : Rat} (hq : 0 < q) {n : Nat} (hn : n ≤ 53) (hlt : q < 2 ^ n) :
    |nearestPositive q - q| ≤ 1 / 2 ^ (54 - n) := by
  obtain ⟨j, hj, hspacing⟩ := exists_spacing_eq hq hn hlt
  have hpos : (0 : Rat) < 1 / 2 ^ j := by
    positivity
  have hscaled : q = q / (1 / 2 ^ j) * (1 / 2 ^ j) := (div_mul_cancel₀ q hpos.ne').symm
  have hsmall : (1 : Rat) / 2 ^ (j + 1) ≤ 1 / 2 ^ (54 - n) :=
    one_div_le_one_div_of_le (by positivity) (pow_le_pow_right₀ (by norm_num) (by omega))
  calc |nearestPositive q - q|
      = |(roundToEven (q / (1 / 2 ^ j)) : Rat) - q / (1 / 2 ^ j)| * (1 / 2 ^ j) := by
        rw [nearestPositive, hspacing]
        nth_rewrite 2 [hscaled]
        rw [← sub_mul, abs_mul, abs_of_pos hpos]
    _ ≤ 1 / 2 * (1 / 2 ^ j) := mul_le_mul_of_nonneg_right (abs_roundToEven_sub_le _) hpos.le
    _ = 1 / 2 ^ (j + 1) := by
        rw [pow_succ]
        field_simp
    _ ≤ 1 / 2 ^ (54 - n) := hsmall

@[simp] theorem nearest_zero : nearest 0 = 0 := by
  rw [nearest, if_pos rfl]

theorem nearest_of_pos {q : Rat} (hq : 0 < q) : nearest q = nearestPositive q := by
  rw [nearest, if_neg hq.ne', if_pos hq]

/-- A number and its opposite are rounded alike. -/
theorem nearest_neg (q : Rat) : nearest (-q) = -nearest q := by
  rcases lt_trichotomy q 0 with hneg | rfl | hpos
  · rw [nearest_of_pos (neg_pos.2 hneg), nearest, if_neg hneg.ne, if_neg hneg.not_gt, neg_neg]
  · simp
  · rw [nearest_of_pos hpos, nearest, if_neg (neg_ne_zero.2 hpos.ne'), if_neg (by linarith), neg_neg]

/-- An integer below `2 ^ 53` is its own nearest number. -/
theorem nearest_intCast {k : Int} (hk : |k| < 2 ^ 53) : nearest k = k := by
  have hpositive : ∀ n : Int, 0 < n → n < 2 ^ 53 → nearest n = n := by
    intro n hpos hn
    rw [nearest_of_pos (by exact_mod_cast hpos), nearestPositive_intCast hpos hn]
  obtain ⟨hlow, hhigh⟩ := abs_lt.1 hk
  rcases lt_trichotomy k 0 with hneg | rfl | hpos
  · have hself := hpositive (-k) (by omega) (by omega)
    rwa [Int.cast_neg, nearest_neg, neg_inj] at hself
  · simp
  · exact hpositive k hpos hhigh

/-- Below a power of two the error is a fixed fraction of it. -/
theorem abs_nearest_sub_le {q : Rat} {n : Nat} (hn : n ≤ 53) (hq : |q| < 2 ^ n) :
    |nearest q - q| ≤ 1 / 2 ^ (54 - n) := by
  have hpositive : ∀ p : Rat, 0 < p → p < 2 ^ n → |nearest p - p| ≤ 1 / 2 ^ (54 - n) := by
    intro p hpos hp
    rw [nearest_of_pos hpos]
    exact abs_nearestPositive_sub_le hpos hn hp
  obtain ⟨hlow, hhigh⟩ := abs_lt.1 hq
  rcases lt_trichotomy q 0 with hneg | rfl | hpos
  · have herror := hpositive (-q) (by linarith) (by linarith)
    rwa [nearest_neg, neg_sub_neg, abs_sub_comm] at herror
  · rw [nearest_zero, sub_self, abs_zero]
    positivity
  · exact hpositive q hpos hhigh

end Binary64
end Agenda
