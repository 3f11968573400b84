/-
  The range of a record as the SDKs keep it: a 32-bit number of millionths of a metre, divided by
  a million.

  Both C++ SDKs divide by a `float` and keep a `float`, so the word is rounded to 24 bits before
  its quotient is; the C# SDK divides by a `double` and rounds once, to 53 bits. The two numbers
  are the same exactly for whole 64ths of a metre whose word does not lose too much on the way
  (`floatRange_eq_doubleRange_iff`).
-/
import Mathlib.Tactic.LinearCombination
import Navtech.Lib.SignificantBits
import Navtech.Network.NavigationRecords

namespace Navtech

open SignificantBits

namespace RadarClient

/-- The quotient of a word by `range_multiplier_float`: the word is made a `float`, and what it
    is divided to is another. -/
def floatRange (word : UInt32) : ℚ := nearest 24 (nearest 24 word.toNat / rangeMultiplier)

/-- A peak as the tuple holds it, in place of the exact quotient. -/
def storedPeak (peak : ℚ × UInt16) : ℚ × UInt16 :=
  (nearest 24 (nearest 24 (peak.1 * rangeMultiplier) / rangeMultiplier), peak.2)

/-- The quotient of a word as a `double`. -/
def doubleRange (word : UInt32) : ℚ := nearest 53 (word.toNat / rangeMultiplier)

/-- The range is in whole 64ths of a metre, and its word is rounded by less than half a unit of
    the quotient. -/
def SameInBoth (word : UInt32) : Prop :=
  15625 ∣ word.toNat ∧
    |nearest 24 word.toNat - word.toNat| <
      rangeMultiplier * (unit 24 (word.toNat / rangeMultiplier) / 2)

instance : DecidablePred SameInBoth := fun _ => inferInstanceAs (Decidable (_ ∧ _))

theorem storedPeak_peak (record : UInt32 × UInt16) :
    storedPeak (peak record) = (floatRange record.1, record.2) := by
  have hne : (rangeMultiplier : ℚ) ≠ 0 := by norm_num [rangeMultiplier]
  unfold storedPeak peak floatRange
  rw [div_mul_cancel₀ _ hne]

theorem map_storedPeak (records : List (UInt32 × UInt16)) :
    (records.map peak).map storedPeak = records.map fun r => (floatRange r.1, r.2) := by
  rw [List.map_map]
  exact List.map_congr_left fun record _ => storedPeak_peak record

section Quotients

variable {w : Nat}

theorem quotient_of_dvd (h : 15625 ∣ w) : ((w / 15625 : Nat) : ℚ) * 2 ^ (-6 : Int) =
    w / rangeMultiplier := by
  obtain ⟨k, rfl⟩ := h
  rw [Nat.mul_div_cancel_left _ (by decide)]
  push_cast [rangeMultiplier]
  norm_num
  ring

/-- A quotient of at most 19 bits is kept. -/
theorem nearest_quotient {p : Nat} (hp : 24 ≤ p) (hw : w < 2 ^ 32) (h : 15625 ∣ w) :
    nearest p (w / rangeMultiplier) = w / rangeMultiplier := by
  have hsmall : |((w / 15625 : Nat) : Int)| < 2 ^ p := by
    have hpow : (2 : Int) ^ 24 ≤ 2 ^ p := pow_le_pow_right₀ (by norm_num) hp
    rw [Nat.abs_cast]
    omega
  have hkept := nearest_of_multiple (e := -6) hsmall
  rwa [Int.cast_natCast, quotient_of_dvd h] at hkept

/-- The word made a `float`, divided. -/
theorem rounded_pos (hpos : 0 < w) : (0 : ℚ) < nearest 24 w / rangeMultiplier := by
  have hlow := le_nearest 24 (q := w) (Nat.cast_nonneg w)
  have hcast : (0 : ℚ) < w := by exact_mod_cast hpos
  have hnumerator : (0 : ℚ) < nearest 24 w := by
    norm_num at hlow
    linarith
  exact div_pos hnumerator (by norm_num [rangeMultiplier])

/-- A `float` as near the exact quotient as a `double` is the quotient, in whole 64ths of a
    metre. -/
theorem dvd_of_near {s : Int} {g : Int} (hw : w < 2 ^ 32) (hpos : 0 < w)
    (hg : (2 : ℚ) ^ g ≤ nearest 24 w / rangeMultiplier)
    (hg' : nearest 24 w / rangeMultiplier < (2 : ℚ) ^ (g + 1))
    (hnear : |(s * 2 ^ (g - 23) : ℚ) - w / rangeMultiplier| ≤ w / rangeMultiplier / 2 ^ 53) :
    15625 ∣ w ∧ (s * 2 ^ (g - 23) : ℚ) = w / rangeMultiplier := by
  have hcast : (w : ℚ) < 2 ^ 32 := by exact_mod_cast hw
  have hcast' : (0 : ℚ) < w := by exact_mod_cast hpos
  have hhigh := nearest_le 24 (q := w) (Nat.cast_nonneg w)
  have hlow := le_nearest 24 (q := w) (Nat.cast_nonneg w)
  have hmillion : (rangeMultiplier : ℚ) = 15625 * 2 ^ 6 := by norm_num [rangeMultiplier]
  have hgsmall : g < 17 := by
    have hlt : (2 : ℚ) ^ g < 2 ^ (17 : Int) := by
      refine hg.trans_lt ?_
      rw [hmillion, div_lt_iff₀ (by norm_num)]
      norm_num at hhigh ⊢
      linarith
    exact (zpow_lt_zpow_iff_right₀ (by norm_num)).mp hlt
  obtain ⟨n, hn⟩ := Int.eq_ofNat_of_zero_le (show 0 ≤ 17 - g by omega)
  have hunit : (2 : ℚ) ^ (g - 23) = (2 ^ n * 2 ^ 6)⁻¹ := by
    rw [show g - 23 = -((n : Int) + 6) by omega, zpow_neg, zpow_add₀ (by norm_num), zpow_natCast]
    rfl
  -- in multiples of the unit, the difference is less than one
  have hroom : (w : ℚ) * 2 ^ n < 2 ^ 53 := by
    have hpow : (2 : ℚ) ^ (g + 1) * 2 ^ n = 2 ^ 18 := by
      rw [← zpow_natCast, ← zpow_add₀ (by norm_num), show g + 1 + (n : Int) = 18 by omega]
      rfl
    have hscaled := mul_lt_mul_of_pos_right hg' (show (0 : ℚ) < 2 ^ n by positivity)
    rw [hpow, hmillion, div_mul_eq_mul_div, div_lt_iff₀ (by norm_num)] at hscaled
    have hlow' := mul_le_mul_of_nonneg_right hlow (show (0 : ℚ) ≤ 2 ^ n by positivity)
    rw [mul_right_comm] at hlow'
    linarith
  have hdifference : |((s * 15625 - w * 2 ^ n : Int) : ℚ)| < 1 := by
    have hscaled : ((s * 15625 - w * 2 ^ n : Int) : ℚ) =
        ((s * 2 ^ (g - 23) : ℚ) - w / rangeMultiplier) * (15625 * 2 ^ 6 * 2 ^ n) := by
      rw [hunit, hmillion]
      push_cast
      field_simp
    rw [hscaled, abs_mul, abs_of_pos (show (0 : ℚ) < 15625 * 2 ^ 6 * 2 ^ n by positivity)]
    calc _ ≤ (w : ℚ) / rangeMultiplier / 2 ^ 53 * (15625 * 2 ^ 6 * 2 ^ n) :=
          mul_le_mul_of_nonneg_right hnear (by positivity)
      _ = (w : ℚ) * 2 ^ n / 2 ^ 53 := by
          rw [hmillion]
          field_simp
      _ < 1 := by
          rw [div_lt_one (by positivity)]
          exact hroom
  have hzero : s * 15625 - (w : Int) * 2 ^ n = 0 := by
    have habs : |s * 15625 - (w : Int) * 2 ^ n| < 1 := by exact_mod_cast hdifference
    exact Int.abs_lt_one_iff.mp habs
  have hequal : (w : Int) * 2 ^ n = s * 15625 := by omega
  constructor
  · have hdvd : (15625 : Int) ∣ w * 2 ^ n := ⟨s, by rw [hequal, mul_comm]⟩
    have hdvd' : 15625 ∣ w * 2 ^ n := by exact_mod_cast hdvd
    exact (Nat.Coprime.pow_right n (by decide)).dvd_of_dvd_mul_right hdvd'
  · have hequal' : (w : ℚ) * 2 ^ n = s * 15625 := by exact_mod_cast hequal
    rw [hunit, hmillion, eq_div_iff (by norm_num), ← div_eq_mul_inv, div_mul_eq_mul_div,
      div_eq_iff (by positivity)]
    linear_combination (-2 ^ 6 : ℚ) * hequal'

/-- Half a unit of a quotient is no whole number of millionths. -/
theorem half_unit_ne {d : Int} (hw : w < 2 ^ 32) (hpos : 0 < w) :
    |(d : ℚ)| ≠ rangeMultiplier * (unit 24 (w / rangeMultiplier) / 2) := by
  intro heq
  have hcast : (w : ℚ) < 2 ^ 32 := by exact_mod_cast hw
  have hquotient : (0 : ℚ) < w / rangeMultiplier :=
    div_pos (by exact_mod_cast hpos) (by norm_num [rangeMultiplier])
  have hlog : Int.log 2 |(w : ℚ) / rangeMultiplier| < 13 := by
    rw [← Int.lt_zpow_iff_log_lt (by decide) (abs_pos.mpr hquotient.ne'), abs_of_pos hquotient,
      div_lt_iff₀ (by norm_num [rangeMultiplier])]
    norm_num [rangeMultiplier]
    linarith
  obtain ⟨k, hk⟩ := Int.eq_ofNat_of_zero_le (show
    0 ≤ 11 - (Int.log 2 |(w : ℚ) / rangeMultiplier| + 1 - 24) - 22 by omega)
  have hunit : unit 24 ((w : ℚ) / rangeMultiplier) = (2 ^ 11 * 2 ^ k)⁻¹ := by
    rw [unit, show Int.log 2 |(w : ℚ) / rangeMultiplier| + 1 - ((24 : Nat) : Int) =
      -(11 + (k : Int)) by push_cast; omega, zpow_neg, zpow_add₀ (by norm_num), zpow_natCast]
    rfl
  rw [hunit] at heq
  have hscaled : |(d : ℚ)| * (2 ^ 12 * 2 ^ k) = 1000000 := by
    rw [heq]
    norm_num [rangeMultiplier]
    field_simp
    norm_num
  have hdvd : (2 ^ 12 : Int) ∣ 1000000 := by
    refine ⟨|d| * 2 ^ k, ?_⟩
    have hinteger : |d| * (2 ^ 12 * 2 ^ k) = 1000000 := by exact_mod_cast hscaled
    rw [← hinteger]
    ring
  exact absurd hdvd (by decide)

end Quotients

/-- **When the SDKs keep the same range.** The `float` and the `double` of a word are the same
    number exactly if the range is in whole 64ths of a metre and its word is rounded by less
    than half a unit of the quotient. -/
theorem floatRange_eq_doubleRange_iff (word : UInt32) :
    floatRange word = doubleRange word ↔ SameInBoth word := by
  have hw : word.toNat < 2 ^ 32 := word.toNat_lt
  unfold floatRange doubleRange SameInBoth
  generalize word.toNat = w at hw
  have hmultiplier : (0 : ℚ) < rangeMultiplier := by norm_num [rangeMultiplier]
  have hdistance : |nearest 24 w / rangeMultiplier - w / rangeMultiplier| =
      |nearest 24 w - w| / rangeMultiplier := by
    rw [← sub_div, abs_div, abs_of_pos hmultiplier]
  rcases Nat.eq_zero_or_pos w with rfl | hpos
  · have hunit := unit_pos 24 0
    simp only [Nat.cast_zero, nearest_zero, zero_div, sub_zero, abs_zero, dvd_zero, true_and,
      true_iff]
    exact mul_pos hmultiplier (half_pos hunit)
  have hquotient : (0 : ℚ) < w / rangeMultiplier := div_pos (by exact_mod_cast hpos) hmultiplier
  have hrounded := rounded_pos hpos
  constructor
  · intro heq
    have hlow := Int.zpow_log_le_self (b := 2) (by decide) hrounded
    have hhigh := Int.lt_zpow_succ_log_self (b := 2) (by decide) (nearest 24 w / rangeMultiplier)
    have hnear := nearest_near 53 ((w : ℚ) / rangeMultiplier)
    rw [← heq, abs_of_pos hquotient, nearest_of_ne hrounded.ne', unit, abs_of_pos hrounded] at hnear
    have hexponent : Int.log 2 (nearest 24 w / rangeMultiplier) + 1 - ((24 : Nat) : Int) =
        Int.log 2 (nearest 24 w / rangeMultiplier) - 23 := by push_cast; omega
    rw [hexponent] at hnear
    obtain ⟨hdvd, hexact⟩ := dvd_of_near hw hpos (by exact_mod_cast hlow) (by exact_mod_cast hhigh)
      hnear
    have hfloat : nearest 24 (nearest 24 w / rangeMultiplier) = w / rangeMultiplier := by
      rw [nearest_of_ne hrounded.ne', unit, abs_of_pos hrounded, hexponent]
      exact hexact
    refine ⟨hdvd, lt_of_le_of_ne ?_ ?_⟩
    · have hclose := near_of_nearest_eq (by decide) hrounded hfloat
      rw [hdistance, div_le_iff₀ hmultiplier] at hclose
      linarith
    · obtain ⟨m, hm⟩ := exists_nearest_intCast 24 w
      rw [Int.cast_natCast] at hm
      rw [hm, ← Int.cast_natCast (R := ℚ) w, ← Int.cast_sub]
      exact half_unit_ne hw hpos
  · rintro ⟨hdvd, hnear⟩
    rw [nearest_quotient (by decide) hw hdvd]
    refine nearest_of_near (nearest_quotient (le_refl 24) hw hdvd) hquotient ?_ ?_
    · -- the power of two below the quotient, times a million, is a `float`
      have hlog := Int.zpow_log_le_self (b := 2) (by decide) hquotient
      rw [abs_of_pos hquotient, le_div_iff₀ hmultiplier]
      have hkept := nearest_of_multiple (p := 24) (s := rangeMultiplier)
        (e := Int.log 2 ((w : ℚ) / rangeMultiplier)) (by decide)
      rw [Int.cast_natCast] at hkept
      rw [mul_comm, ← hkept]
      refine nearest_mono (by decide) (mul_nonneg hmultiplier.le (zpow_nonneg (by norm_num) _)) ?_
      rw [Nat.cast_ofNat, le_div_iff₀ hmultiplier] at hlog
      rwa [mul_comm]
    · rw [hdistance, div_lt_iff₀ hmultiplier]
      linarith

end RadarClient

end Navtech
