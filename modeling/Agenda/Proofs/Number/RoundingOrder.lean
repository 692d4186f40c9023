import Agenda.Proofs.Number.Rounding
/-!
# Rounding keeps the order

Of two numbers the larger one is not rounded to a smaller number, however far apart their spacings are.

* `roundToEven_mono` — the same for the rounding to an integer.
* `Binary64.lt_two_zpow_exponentOf_add_one` — the exponent of a number is not too small.
* `Binary64.nearest_mono` — rounding to 53 significant bits keeps the order.
* `Binary64.intCast_le_nearest` — below `2 ^ 53` no integer is passed over from above.
-/

namespace Agenda

/-- Rounding to an integer keeps the order of numbers. -/
theorem roundToEven_mono {p q : Rat} (hle : p ≤ q) : roundToEven p ≤ roundToEven q := by
  have hfloor : p.floor ≤ q.floor := Rat.le_floor_iff.2 ((Rat.floor_le p).trans hle)
  rcases hfloor.lt_or_eq with hlt | heq
  · have hbelow : roundToEven p ≤ p.floor + 1 := by
      apply roundToEven_le_intCast
      exact_mod_cast (Rat.lt_floor_add_one p).le
    have habove : q.floor ≤ roundToEven q := intCast_le_roundToEven (Rat.floor_le q)
    omega
  · -- With the same integer below, the larger fraction is not rounded down where the smaller one is rounded up.
    unfold roundToEven
    simp only [heq]
    split
    · split
      · exact le_refl _
      · split
        · omega
        · split <;> omega
    · split
      · rw [if_neg (by linarith), if_pos (by linarith)]
      · split
        · split
          · exact le_refl _
          · split
            · omega
            · exact le_refl _
        · rw [if_neg (by linarith)]
          split <;> exact le_refl _

namespace Binary64

/-- The exponent belongs to the largest such power of two. -/
theorem lt_two_zpow_exponentOf_add_one {q : Rat} (hq : 0 < q) : q < (2 : Rat) ^ (exponentOf q + 1) := by
  unfold exponentOf
  simp only [powerOfTwo_eq]
  split
  · next hlt => simpa using hlt
  · -- The numerator is below the next power of two, and the denominator is at least its own.
    have hnum : 0 < q.num := Rat.num_pos.2 hq
    have hnumerator : (q.num : Rat) < 2 ^ (q.num.toNat.log2 + 1) := by
      have hlt := Nat.lt_log2_self (n := q.num.toNat)
      have hcast : ((q.num.toNat : Int) : Rat) = q.num := by
        rw [Int.toNat_of_nonneg hnum.le]
      rw [← hcast]
      exact_mod_cast hlt
    have hdenominator : (2 : Rat) ^ q.den.log2 ≤ q.den := by
      exact_mod_cast Nat.log2_self_le (n := q.den) q.den_ne_zero
    calc q = q.num / q.den := (Rat.num_div_den q).symm
      _ < 2 ^ (q.num.toNat.log2 + 1) / 2 ^ q.den.log2 :=
          div_lt_div₀ hnumerator hdenominator (by positivity) (by positivity)
      _ = (2 : Rat) ^ ((q.num.toNat.log2 : Int) - q.den.log2 + 1) := by
          rw [sub_add_eq_add_sub, zpow_sub₀ (by norm_num)]
          norm_cast

theorem exponentOf_mono {p q : Rat} (hp : 0 < p) (hle : p ≤ q) : exponentOf p ≤ exponentOf q := by
  have hpower : (2 : Rat) ^ exponentOf p < 2 ^ (exponentOf q + 1) :=
    ((two_zpow_exponentOf_le hp).trans hle).trans_lt (lt_two_zpow_exponentOf_add_one (hp.trans_le hle))
  have hlt := (zpow_lt_zpow_iff_right₀ (by norm_num : (1 : Rat) < 2)).1 hpower
  omega

theorem spacing_eq (q : Rat) : spacing q = (2 : Rat) ^ max (exponentOf q - 52) (-1074) :=
  powerOfTwo_eq _

theorem spacing_pos (q : Rat) : 0 < spacing q := by
  rw [spacing_eq]
  positivity

/-- A number is not rounded up over a multiple of its spacing. -/
theorem nearestPositive_le_mul_spacing {q : Rat} {k : Int} (hk : q ≤ k * spacing q) :
    nearestPositive q ≤ k * spacing q := by
  have hround : roundToEven (q / spacing q) ≤ k :=
    roundToEven_le_intCast ((div_le_iff₀ (spacing_pos q)).2 hk)
  exact mul_le_mul_of_nonneg_right (by exact_mod_cast hround) (spacing_pos q).le

/-- A number is not rounded down over a multiple of its spacing. -/
theorem mul_spacing_le_nearestPositive {q : Rat} {k : Int} (hk : k * spacing q ≤ q) :
    k * spacing q ≤ nearestPositive q := by
  have hround : k ≤ roundToEven (q / spacing q) :=
    intCast_le_roundToEven ((le_div_iff₀ (spacing_pos q)).2 hk)
  exact mul_le_mul_of_nonneg_right (by exact_mod_cast hround) (spacing_pos q).le

theorem nearestPositive_mono {p q : Rat} (hp : 0 < p) (hle : p ≤ q) :
    nearestPositive p ≤ nearestPositive q := by
  have hexponent := exponentOf_mono hp hle
  by_cases hspacing : spacing p = spacing q
  · have hround : roundToEven (p / spacing q) ≤ roundToEven (q / spacing q) :=
      roundToEven_mono (div_le_div_of_nonneg_right hle (spacing_pos q).le)
    rw [nearestPositive, nearestPositive, hspacing]
    exact mul_le_mul_of_nonneg_right (by exact_mod_cast hround) (spacing_pos q).le
  · -- The power of two at or below the larger number lies on both grids, and between the two numbers.
    have hne : max (exponentOf p - 52) (-1074) ≠ max (exponentOf q - 52) (-1074) := by
      intro heq
      exact hspacing (by rw [spacing_eq, spacing_eq, heq])
    have hnormal : max (exponentOf q - 52) (-1074) = exponentOf q - 52 := by omega
    obtain ⟨n, hn⟩ := Int.eq_ofNat_of_zero_le
      (show 0 ≤ exponentOf q - max (exponentOf p - 52) (-1074) by omega)
    have hbelow : ((2 ^ n : Int) : Rat) * spacing p = 2 ^ exponentOf q := by
      rw [spacing_eq]
      push_cast
      rw [← zpow_natCast, ← zpow_add₀ (by norm_num)]
      congr 1
      omega
    have habove : ((2 ^ 52 : Int) : Rat) * spacing q = 2 ^ exponentOf q := by
      rw [spacing_eq, hnormal, zpow_sub₀ (by norm_num)]
      norm_num
      field_simp
    have hsmaller : p ≤ 2 ^ exponentOf q :=
      (lt_two_zpow_exponentOf_add_one hp).le.trans
        (zpow_le_zpow_right₀ (by norm_num) (show exponentOf p + 1 ≤ exponentOf q by omega))
    calc nearestPositive p ≤ ((2 ^ n : Int) : Rat) * spacing p :=
          nearestPositive_le_mul_spacing (by rwa [hbelow])
      _ = ((2 ^ 52 : Int) : Rat) * spacing q := by rw [hbelow, habove]
      _ ≤ nearestPositive q :=
          mul_spacing_le_nearestPositive (by rw [habove]; exact two_zpow_exponentOf_le (hp.trans_le hle))

theorem nearestPositive_nonneg {q : Rat} (hq : 0 < q) : 0 ≤ nearestPositive q := by
  have hzero := mul_spacing_le_nearestPositive (q := q) (k := 0) (by simpa using hq.le)
  simpa using hzero

theorem nearest_nonneg {q : Rat} (hq : 0 ≤ q) : 0 ≤ nearest q := by
  rcases hq.eq_or_lt with rfl | hpos
  · rw [nearest_zero]
  · rw [nearest_of_pos hpos]
    exact nearestPositive_nonneg hpos

theorem nearest_mono_of_nonneg {p q : Rat} (hp : 0 ≤ p) (hle : p ≤ q) : nearest p ≤ nearest q := by
  rcases hp.eq_or_lt with rfl | hpos
  · rw [nearest_zero]
    exact nearest_nonneg hle
  · rw [nearest_of_pos hpos, nearest_of_pos (hpos.trans_le hle)]
    exact nearestPositive_mono hpos hle

/-- Rounding keeps the order of numbers. -/
theorem nearest_mono {p q : Rat} (hle : p ≤ q) : nearest p ≤ nearest q := by
  rcases le_total 0 p with hp | hp
  · exact nearest_mono_of_nonneg hp hle
  · -- The opposite of a number that is not positive is rounded to one that is not negative.
    have hopposite := nearest_nonneg (neg_nonneg.2 hp)
    rw [nearest_neg] at hopposite
    rcases le_total 0 q with hq | hq
    · have hnonneg := nearest_nonneg hq
      linarith
    · have hmono := nearest_mono_of_nonneg (neg_nonneg.2 hq) (neg_le_neg hle)
      rw [nearest_neg, nearest_neg] at hmono
      linarith

/-- Below `2 ^ 53` no integer is passed over from above. -/
theorem intCast_le_nearest {k : Int} {q : Rat} (hq : |q| ≤ 2 ^ 53 - 1) (hk : (k : Rat) ≤ q) :
    (k : Rat) ≤ nearest q := by
  obtain ⟨hlow, hhigh⟩ := abs_le.1 hq
  -- An integer that is too far below zero to be kept lies below another one that is kept.
  obtain ⟨kept, hkept, hge, hle⟩ : ∃ n : Int, |n| < 2 ^ 53 ∧ k ≤ n ∧ (n : Rat) ≤ q := by
    refine ⟨max k (-(2 ^ 53 - 1)), ?_, le_max_left _ _, ?_⟩
    · have hbelow : k ≤ 2 ^ 53 - 1 := by exact_mod_cast hk.trans hhigh
      rw [abs_lt]
      omega
    · rw [Int.cast_max]
      exact max_le hk (by exact_mod_cast hlow)
  calc (k : Rat) ≤ kept := by exact_mod_cast hge
    _ = nearest kept := (nearest_intCast hkept).symm
    _ ≤ nearest q := nearest_mono hle

end Binary64
end Agenda
