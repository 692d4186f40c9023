import Agenda.Calendar.Moment
import Agenda.Proofs.Calendar.DayNumbers
import Agenda.Proofs.Number.RoundingOrder
/-!
# Moments and their numbers

The microseconds and the seconds that are counted for a moment.

* `Moment.exists_ofEpoch?_iff` — the microseconds that lie on a day of the calendar.
* `Moment.sinceEpoch_of_ofEpoch?` — the UTC clock reading at a number of microseconds has this number.
* `Moment.ComparesExactly` — the moments that are compared with whole seconds as they are: all of the years
  1426 to 2513, and whole seconds at any time.
* `Moment.intCast_le_timestamp` — no whole second is passed over by the timestamp of a later moment.
* `Moment.intCast_le_timestamp_iff` — the timestamp of such a moment is compared in the same way.
* `Moment.sinceEpoch_lt_of_timestamp_lt` — a whole second after the timestamp of a moment is after the moment.
* `Moment.timestamp_mono` — timestamps keep the order of moments.
* `Moment.timestamp_lt_nearest_add` — up to the year 2106 a moment less than some seconds after another one is so
  by their timestamps, too.
-/

namespace Agenda
namespace Moment

/-- The microseconds from 1970 to the first day of the calendar. -/
def firstMicros : Int := -62135596800 * microsPerSecond

/-- The microseconds from 1970 to the end of the last day of the calendar. -/
def endMicros : Int := 253402300800 * microsPerSecond

/-- The calendar has a day for the microseconds between its ends. -/
theorem exists_ofEpoch?_iff {t : Int} : (∃ m, ofEpoch? t = some m) ↔ firstMicros ≤ t ∧ t < endMicros := by
  have hday : (∃ m, ofEpoch? t = some m)
      ↔ 1 ≤ t.fdiv microsPerDay + epochDayNumber ∧ t.fdiv microsPerDay + epochDayNumber ≤ lastDayNumber := by
    unfold ofEpoch?
    simp only
    constructor
    · rintro ⟨m, hm⟩
      split at hm
      · cases hm
      · next hpos =>
          obtain ⟨day, hnumber, -⟩ := Option.map_eq_some_iff.1 hm
          have hle := day.dayNumber_le_lastDayNumber
          rw [Date.ofDayNumber?_eq_some_iff.1 hnumber] at hle
          omega
    · rintro ⟨hpos, hlast⟩
      obtain ⟨day, hnumber, -⟩ :=
        Date.exists_ofDayNumber? (n := (t.fdiv microsPerDay + epochDayNumber).toNat) (by omega) (by omega)
      rw [if_neg (by omega), hnumber]
      exact ⟨_, rfl⟩
  rw [hday, Int.fdiv_eq_ediv_of_nonneg _ (by decide)]
  unfold firstMicros endMicros microsPerDay microsPerSecond epochDayNumber lastDayNumber
  omega

/-- The UTC clock reading at a number of microseconds has this number. -/
theorem sinceEpoch_of_ofEpoch? {t : Int} {m : Moment} (h : ofEpoch? t = some m) :
    m.sinceEpoch = t ∧ m.faceMicros = t := by
  unfold ofEpoch? at h
  simp only at h
  split at h
  · cases h
  · next hpos =>
      obtain ⟨day, hnumber, rfl⟩ := Option.map_eq_some_iff.1 h
      have hday := Date.ofDayNumber?_eq_some_iff.1 hnumber
      rw [Int.fdiv_eq_ediv_of_nonneg _ (by decide)] at hpos hday
      have hface : faceMicros ⟨day, (t - t.fdiv microsPerDay * microsPerDay).toNat % microsPerDay, 0,
          Nat.mod_lt _ (by decide)⟩ = t := by
        unfold faceMicros
        simp only [hday]
        rw [Int.fdiv_eq_ediv_of_nonneg _ (by decide)]
        unfold microsPerDay microsPerSecond at *
        omega
      refine ⟨?_, hface⟩
      rw [sinceEpoch, hface]
      simp

/-! ## Seconds -/

/-- The timestamp of the moment lies on the same side of all whole seconds as the moment: it is a moment less than
`2 ^ 34` seconds away from 1970, as all of the years 1426 to 2513 are, or a whole second. -/
def ComparesExactly (m : Moment) : Prop :=
  |m.sinceEpoch| < 2 ^ 34 * microsPerSecond ∨ (microsPerSecond : Int) ∣ m.sinceEpoch

instance (m : Moment) : Decidable m.ComparesExactly :=
  inferInstanceAs (Decidable (_ ∨ _))

theorem microsPerSecond_pos : (0 : Rat) < microsPerSecond := by
  norm_num [microsPerSecond]

@[simp] theorem intCast_mul_div_microsPerSecond (k : Int) :
    ((k * microsPerSecond : Int) : Rat) / microsPerSecond = k := by
  push_cast
  exact mul_div_cancel_right₀ _ microsPerSecond_pos.ne'

/-- Different numbers of microseconds are a microsecond apart at least. -/
theorem div_add_one_div_le {x y : Int} (hlt : x < y) :
    (x : Rat) / microsPerSecond + 1 / microsPerSecond ≤ (y : Rat) / microsPerSecond := by
  rw [← add_div]
  exact div_le_div_of_nonneg_right (by exact_mod_cast hlt) microsPerSecond_pos.le

/-- The moments of the calendar are so near to 1970 that their seconds can be told apart. -/
theorem abs_sinceEpoch_le {m : Moment} (hutc : m.inUtc? ≠ none) :
    |m.sinceEpoch| ≤ (2 ^ 53 - 1) * microsPerSecond := by
  obtain ⟨hlow, hhigh⟩ := exists_ofEpoch?_iff.1 (Option.ne_none_iff_exists'.1 hutc)
  rw [abs_le]
  unfold firstMicros endMicros microsPerSecond at *
  omega

/-- The error of a timestamp is a fixed fraction of a power of two that the seconds of the moment stay below. -/
theorem abs_timestamp_sub_le {m : Moment} {n : Nat} (hn : n ≤ 53) (hm : |m.sinceEpoch| < 2 ^ n * microsPerSecond) :
    |m.timestamp - (m.sinceEpoch : Rat) / microsPerSecond| ≤ 1 / 2 ^ (54 - n) := by
  apply Binary64.abs_nearest_sub_le hn
  rw [abs_div, abs_of_pos microsPerSecond_pos, div_lt_iff₀ microsPerSecond_pos]
  exact_mod_cast hm

/-- A whole second that is not after a moment of the calendar is not after its timestamp. -/
theorem intCast_le_timestamp {m : Moment} (hm : |m.sinceEpoch| ≤ (2 ^ 53 - 1) * microsPerSecond) {k : Int}
    (hk : k * microsPerSecond ≤ m.sinceEpoch) : (k : Rat) ≤ m.timestamp := by
  apply Binary64.intCast_le_nearest
  · rw [abs_div, abs_of_pos microsPerSecond_pos, div_le_iff₀ microsPerSecond_pos]
    exact_mod_cast hm
  · rw [le_div_iff₀ microsPerSecond_pos]
    exact_mod_cast hk

/-- Up to `2 ^ 34` seconds around 1970 the error of a timestamp is below a microsecond. -/
theorem intCast_le_timestamp_iff_of_abs_lt {m : Moment} (hsmall : |m.sinceEpoch| < 2 ^ 34 * microsPerSecond) (k : Int) :
    (k : Rat) ≤ m.timestamp ↔ k * microsPerSecond ≤ m.sinceEpoch := by
  constructor
  · intro hle
    by_contra hnot
    -- The moment is a microsecond before the second, which is more than the error.
    have hbefore := div_add_one_div_le (not_le.1 hnot)
    rw [intCast_mul_div_microsPerSecond] at hbefore
    have herror := (abs_le.1 (abs_timestamp_sub_le (n := 34) (by norm_num) hsmall)).2
    have hmicro : (1 : Rat) / 2 ^ (54 - 34) < 1 / microsPerSecond := by
      norm_num [microsPerSecond]
    linarith
  · apply intCast_le_timestamp
    unfold microsPerSecond at *
    omega

/-- A whole second has itself as its timestamp. -/
theorem timestamp_of_wholeSeconds {m : Moment} {k : Int} (hm : m.sinceEpoch = microsPerSecond * k)
    (hk : |k| < 2 ^ 53) : m.timestamp = k := by
  have hseconds : (m.sinceEpoch : Rat) / microsPerSecond = k := by
    rw [hm, mul_comm, intCast_mul_div_microsPerSecond]
  rw [timestamp, hseconds]
  exact Binary64.nearest_intCast hk

/-- A whole second is not after the timestamp of such a moment exactly when it is not after the moment. -/
theorem intCast_le_timestamp_iff {m : Moment} (hexact : m.ComparesExactly) (hutc : m.inUtc? ≠ none) (k : Int) :
    (k : Rat) ≤ m.timestamp ↔ k * microsPerSecond ≤ m.sinceEpoch := by
  rcases hexact with hsmall | ⟨seconds, hseconds⟩
  · exact intCast_le_timestamp_iff_of_abs_lt hsmall k
  · have hsize : |seconds| < 2 ^ 53 := by
      have hmicros := abs_sinceEpoch_le hutc
      rw [hseconds, abs_le] at hmicros
      rw [abs_lt]
      unfold microsPerSecond at hmicros
      omega
    rw [timestamp_of_wholeSeconds hseconds hsize, hseconds, Int.cast_le, mul_comm]
    exact (mul_le_mul_iff_of_pos_left (by decide)).symm

/-- A whole second that is after the timestamp of a moment is after the moment, however far that is from 1970. -/
theorem sinceEpoch_lt_of_timestamp_lt {m : Moment} (hutc : m.inUtc? ≠ none) {k : Int} (hk : m.timestamp < k) :
    m.sinceEpoch < k * microsPerSecond := by
  by_contra hnot
  exact absurd (intCast_le_timestamp (abs_sinceEpoch_le hutc) (not_lt.1 hnot)) (not_le.2 hk)

/-! ## Moments one after the other -/

/-- A moment that is not before another one does not have a smaller timestamp. -/
theorem timestamp_mono {m m' : Moment} (hle : m.sinceEpoch ≤ m'.sinceEpoch) : m.timestamp ≤ m'.timestamp := by
  apply Binary64.nearest_mono
  exact div_le_div_of_nonneg_right (by exact_mod_cast hle) (by positivity)

/-- A moment that comes less than a number of seconds after another one does so by their timestamps, even when the sum
of timestamp and seconds is rounded, as long as both are less than `2 ^ 32` seconds away from 1970. -/
theorem timestamp_lt_nearest_add {m m' : Moment} {seconds : Nat}
    (hm : |m.sinceEpoch| < 2 ^ 32 * microsPerSecond) (hm' : |m'.sinceEpoch| < 2 ^ 32 * microsPerSecond)
    (hlt : m'.sinceEpoch < m.sinceEpoch + seconds * microsPerSecond) :
    m'.timestamp < Binary64.nearest (m.timestamp + seconds) := by
  have hbelow := (abs_le.1 (abs_timestamp_sub_le (n := 32) (by norm_num) hm)).1
  have habove' := (abs_le.1 (abs_timestamp_sub_le (n := 32) (by norm_num) hm')).2
  -- The moments are a microsecond apart from their bounds, which is more than three errors.
  have hmicro : 3 * ((1 : Rat) / 2 ^ (54 - 32)) < 1 / microsPerSecond := by
    norm_num [microsPerSecond]
  have hsoon : (m'.sinceEpoch : Rat) / microsPerSecond + 1 / microsPerSecond
      ≤ m.sinceEpoch / microsPerSecond + seconds := by
    have hstep := div_add_one_div_le hlt
    rwa [Int.cast_add, add_div, intCast_mul_div_microsPerSecond, Int.cast_natCast] at hstep
  have hstart := div_add_one_div_le (abs_lt.1 hm).1
  have hend := div_add_one_div_le (abs_lt.1 hm').2
  rw [← neg_mul, intCast_mul_div_microsPerSecond] at hstart
  rw [intCast_mul_div_microsPerSecond] at hend
  push_cast at hstart hend
  have hseconds : (0 : Rat) ≤ seconds := Nat.cast_nonneg seconds
  by_cases hsum : m.timestamp + seconds < 2 ^ 32
  · have hsize : |m.timestamp + seconds| < 2 ^ 32 := by
      rw [abs_lt]
      constructor <;> linarith
    have hround := (abs_le.1 (Binary64.abs_nearest_sub_le (n := 32) (by norm_num) hsize)).1
    linarith
  · have hround : Binary64.nearest ((2 ^ 32 : Int) : Rat) ≤ Binary64.nearest (m.timestamp + seconds) := by
      apply Binary64.nearest_mono
      push_cast
      linarith
    rw [Binary64.nearest_intCast (by norm_num)] at hround
    push_cast at hround
    linarith

end Moment
end Agenda
