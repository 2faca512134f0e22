import Mathlib.Algebra.Order.Ring.Nat
import StationFinder.Settings.Basic

/-!
# Waits

How long to wait after a failure is worked out in numbers of limited size, with two safeguards: a factor that has too
many bits gives way to the greatest number, and so does a product that is too large. The two amount to one, which is
that the exact wait is cut off at the longest one (`FeedSettings.backoff_eq_min`). A base of zero is why this is not
plain: the exact factor and the one in its place are different, but zero times either is zero, and any other base takes
both beyond the longest wait.

So waits never get shorter as failures go on or the base grows. This is `FeedSettings.waits_are_cut_off`.
-/

namespace StationFinder.FeedSettings

/-! ### The two safeguards -/

theorem longestWait_eq : longestWait = 2 ^ 64 - 1 := rfl

theorem growth_of_lt {n : Nat} (h : n < waitBits) : growth n = 2 ^ n := by
  rw [growth, if_pos h, Nat.one_shiftLeft]

theorem growth_of_le {n : Nat} (h : waitBits ≤ n) : growth n = longestWait := if_neg (Nat.not_lt.2 h)

/-- A power of two with too many bits is beyond the longest wait. -/
theorem longestWait_le_pow {n : Nat} (h : waitBits ≤ n) : longestWait ≤ 2 ^ n :=
  calc longestWait ≤ 2 ^ waitBits := by decide
    _ ≤ 2 ^ n := Nat.pow_le_pow_right (by decide) h

/-- Cut off at the longest wait, it does not matter that the factor is cut off. -/
theorem min_mul_growth (base n : Nat) : min (base * growth n) longestWait = min (base * 2 ^ n) longestWait := by
  rcases Nat.lt_or_ge n waitBits with hfits | hlong
  · rw [growth_of_lt hfits]
  · -- The two factors differ here. Without a base neither counts, and with one both are enough.
    rcases Nat.eq_zero_or_pos base with rfl | hbase
    · rw [Nat.zero_mul, Nat.zero_mul]
    · have hgrowth : longestWait ≤ base * longestWait := Nat.le_mul_of_pos_left _ hbase
      have hpow : longestWait ≤ base * 2 ^ n :=
        (longestWait_le_pow hlong).trans (Nat.le_mul_of_pos_left _ hbase)
      rw [growth_of_le hlong, Nat.min_eq_right hgrowth, Nat.min_eq_right hpow]

/-- The wait is the exact one, cut off at the longest. -/
theorem backoff_eq_min (f : FeedSettings) (failures : Nat) :
    f.backoff failures = min (f.backoffBaseSecs * 2 ^ min failures f.maxBackoffExponent) longestWait :=
  min_mul_growth ..

/-! ### More failures, and a greater base -/

theorem backoff_le_backoff {f g : FeedSettings} {m n : Nat} (hbase : f.backoffBaseSecs ≤ g.backoffBaseSecs)
    (hdoublings : min m f.maxBackoffExponent ≤ min n g.maxBackoffExponent) : f.backoff m ≤ g.backoff n := by
  rw [backoff_eq_min, backoff_eq_min]
  have hpow : 2 ^ min m f.maxBackoffExponent ≤ 2 ^ min n g.maxBackoffExponent :=
    Nat.pow_le_pow_right (by decide) hdoublings
  exact min_le_min_right _ (Nat.mul_le_mul hbase hpow)

theorem backoff_eq_of_le {f : FeedSettings} {failures : Nat} (h : f.maxBackoffExponent ≤ failures) :
    f.backoff failures = f.backoff f.maxBackoffExponent := by
  rw [backoff, backoff, Nat.min_eq_right h, Nat.min_self]

/-- **Waits are exact until they are cut off.** After any number of failures, and whatever the settings, the wait is the
base times two to the failures, or to the greatest exponent if they are more, and the longest wait if that is less. It
fits in its bits; it never gets shorter with more failures or a greater base; and from the greatest exponent on it stays
the same. -/
theorem waits_are_cut_off :
    (∀ (f : FeedSettings) (failures : Nat),
      f.backoff failures = min (f.backoffBaseSecs * 2 ^ min failures f.maxBackoffExponent) (2 ^ 64 - 1) ∧
      f.backoff failures < 2 ^ 64) ∧
    (∀ f : FeedSettings, Monotone f.backoff) ∧
    (∀ (f g : FeedSettings) (failures : Nat), f.backoffBaseSecs ≤ g.backoffBaseSecs →
      f.maxBackoffExponent = g.maxBackoffExponent → f.backoff failures ≤ g.backoff failures) ∧
    ∀ (f : FeedSettings) (failures : Nat), f.maxBackoffExponent ≤ failures →
      f.backoff failures = f.backoff f.maxBackoffExponent := by
  rw [← longestWait_eq]
  refine ⟨fun f failures => ⟨f.backoff_eq_min failures, ?_⟩, fun f m n hle => ?_, ?_, fun f failures => backoff_eq_of_le⟩
  · have hcut : f.backoff failures ≤ longestWait := Nat.min_le_right ..
    exact Nat.lt_of_le_of_lt hcut (by decide)
  · exact backoff_le_backoff le_rfl (min_le_min_right _ hle)
  · intro f g failures hbase hexponent
    exact backoff_le_backoff hbase (by rw [hexponent])

/-- Settings whose exponent is beyond what is accepted from a file. -/
def steep (base : Nat) : FeedSettings := { backoffBaseSecs := base, maxBackoffExponent := 200 }

theorem steep_waits_are_cut_off :
    (steep 15).backoff 60 = 15 * 2 ^ 60 ∧ (steep 15).backoff 61 = 2 ^ 64 - 1 ∧ (steep 0).backoff 150 = 0 ∧
      (steep 15).backoff 61 ≤ (steep 15).backoff 150 ∧
      (steep 0).backoffBaseSecs ≤ (steep 15).backoffBaseSecs ∧ (steep 0).backoff 150 ≤ (steep 15).backoff 150 ∧
      (steep 15).maxBackoffExponent ≤ 4294967295 ∧ (steep 15).backoff 4294967295 = (steep 15).backoff 200 := by
  obtain ⟨hexact, hfailures, hbase, hconstant⟩ := waits_are_cut_off
  refine ⟨(hexact _ 60).1, (hexact _ 61).1, (hexact _ 150).1.trans (by decide), hfailures _ (by decide), by decide,
    hbase _ _ 150 (by decide) rfl, by decide, hconstant _ _ (by decide)⟩

end StationFinder.FeedSettings
