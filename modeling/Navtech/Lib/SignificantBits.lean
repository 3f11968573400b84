/-
  Rational numbers rounded to a number of significant bits, as a floating-point unit rounds what
  an operation comes to: to the nearest number, and of two to the even one. Exponents have no
  bounds, so there is no overflow, and small numbers have as many bits as others.

  Rounding is off by no more than its bits allow (`nearest_near`), keeps the order of the
  numbers that are not negative (`nearest_mono`), and keeps the numbers that have no more bits
  (`nearest_of_multiple`). From a power of two on, the numbers that it keeps are multiples of one
  unit (`Representable.exists_multiple`), so below such a multiple the greatest one is known
  (`Representable.le_of_lt`).
-/
import Mathlib.Data.Int.Log
import Mathlib.Data.Rat.Floor
import Mathlib.Tactic.Linarith
import Mathlib.Tactic.Positivity

namespace SignificantBits

/-- The integer nearest to `q`, and of two the even one. -/
def roundHalfEven (q : ℚ) : Int :=
  let down := ⌊q⌋
  if q - down < 1 / 2 then down
  else if 1 / 2 < q - down then down + 1
  else if down % 2 = 0 then down else down + 1

/-- The distance between the numbers of `p` bits around `q`. -/
def unit (p : Nat) (q : ℚ) : ℚ := 2 ^ (Int.log 2 |q| + 1 - p)

/-- The number of `p` bits nearest to `q`. -/
def nearest (p : Nat) (q : ℚ) : ℚ :=
  if q = 0 then 0 else roundHalfEven (q / unit p q) * unit p q

/-- The number has no more than `p` bits. -/
def Representable (p : Nat) (q : ℚ) : Prop := nearest p q = q

instance (p : Nat) (q : ℚ) : Decidable (Representable p q) :=
  inferInstanceAs (Decidable (nearest p q = q))

/-! ## The nearest integer -/

section Integer

variable {q r : ℚ}

theorem floor_le_roundHalfEven (q : ℚ) : ⌊q⌋ ≤ roundHalfEven q := by
  unfold roundHalfEven
  dsimp only
  split
  · exact le_refl _
  · split
    · omega
    · split <;> omega

theorem roundHalfEven_le_floor (q : ℚ) : roundHalfEven q ≤ ⌊q⌋ + 1 := by
  unfold roundHalfEven
  dsimp only
  split
  · omega
  · split
    · exact le_refl _
    · split <;> omega

theorem roundHalfEven_near (q : ℚ) : |(roundHalfEven q : ℚ) - q| ≤ 1 / 2 := by
  have hlo := Int.floor_le q
  have hhi := Int.lt_floor_add_one q
  unfold roundHalfEven
  dsimp only
  split
  · rw [abs_le]
    constructor <;> linarith
  · split
    · push_cast
      rw [abs_le]
      constructor <;> linarith
    · split
      · rw [abs_le]
        constructor <;> linarith
      · push_cast
        rw [abs_le]
        constructor <;> linarith

theorem roundHalfEven_intCast (n : Int) : roundHalfEven n = n := by
  unfold roundHalfEven
  dsimp only
  rw [Int.floor_intCast, sub_self, if_pos (by norm_num)]

/-- The integer that is less than a half away. -/
theorem roundHalfEven_of_near {n : Int} (h : |q - n| < 1 / 2) : roundHalfEven q = n := by
  have hnear := roundHalfEven_near q
  rw [abs_lt] at h
  rw [abs_le] at hnear
  have hlow : (n : ℚ) < roundHalfEven q + 1 := by linarith
  have hhigh : (roundHalfEven q : ℚ) < n + 1 := by linarith
  have hlow' : n < roundHalfEven q + 1 := by exact_mod_cast hlow
  have hhigh' : roundHalfEven q < n + 1 := by exact_mod_cast hhigh
  omega

theorem roundHalfEven_mono (h : q ≤ r) : roundHalfEven q ≤ roundHalfEven r := by
  rcases lt_or_eq_of_le (Int.floor_mono h) with hlt | heq
  · exact (roundHalfEven_le_floor q).trans
      ((Int.add_one_le_of_lt hlt).trans (floor_le_roundHalfEven r))
  · -- between the same two integers, the part behind the floor decides
    have hfraction : q - ⌊r⌋ ≤ r - ⌊r⌋ := sub_le_sub_right h _
    unfold roundHalfEven
    dsimp only
    rw [heq]
    by_cases hq : q - ⌊r⌋ < 1 / 2
    · rw [if_pos hq]
      exact floor_le_roundHalfEven r
    · rw [if_neg hq, if_neg (not_lt.mpr ((not_lt.mp hq).trans hfraction))]
      by_cases hr : 1 / 2 < r - ⌊r⌋
      · rw [if_pos hr]
        split
        · exact le_refl _
        · split <;> omega
      · rw [if_neg hr, if_neg (not_lt.mpr (hfraction.trans (not_lt.mp hr)))]

end Integer

/-! ## Rounding -/

section Rounding

variable {p : Nat} {q r : ℚ}

theorem unit_pos (p : Nat) (q : ℚ) : 0 < unit p q := zpow_pos (by norm_num) _

theorem nearest_of_ne (h : q ≠ 0) : nearest p q = roundHalfEven (q / unit p q) * unit p q :=
  if_neg h

@[simp] theorem nearest_zero (p : Nat) : nearest p 0 = 0 := if_pos rfl

/-- The power of two below a number, in units. -/
theorem zpow_log_eq (p : Nat) (q : ℚ) : (2 : ℚ) ^ Int.log 2 |q| = 2 ^ p / 2 * unit p q := by
  have hsplit : Int.log 2 |q| = p + (Int.log 2 |q| + 1 - p) - 1 := by ring
  rw [unit]
  conv => lhs; rw [hsplit]
  rw [zpow_sub₀ (by norm_num), zpow_add₀ (by norm_num), zpow_natCast, zpow_one]
  ring

theorem zpow_log_succ_eq (p : Nat) (q : ℚ) :
    (2 : ℚ) ^ (Int.log 2 |q| + 1) = 2 ^ p * unit p q := by
  rw [zpow_add_one₀ (by norm_num), zpow_log_eq p]
  ring

/-- Half a unit is the most that is rounded off or up. -/
theorem nearest_near_unit (p : Nat) (q : ℚ) : |nearest p q - q| ≤ unit p q / 2 := by
  have hunit := unit_pos p q
  by_cases hq : q = 0
  · rw [hq, nearest_zero, sub_self, abs_zero]
    exact (half_pos (unit_pos p 0)).le
  · have hscaled : nearest p q - q =
        ((roundHalfEven (q / unit p q) : ℚ) - q / unit p q) * unit p q := by
      rw [nearest_of_ne hq, sub_mul, div_mul_cancel₀ _ hunit.ne']
    rw [hscaled, abs_mul, abs_of_pos hunit]
    calc _ ≤ 1 / 2 * unit p q := mul_le_mul_of_nonneg_right (roundHalfEven_near _) hunit.le
      _ = unit p q / 2 := by ring

theorem nearest_near (p : Nat) (q : ℚ) : |nearest p q - q| ≤ |q| / 2 ^ p := by
  by_cases hq : q = 0
  · simp [hq]
  · have hlog : (2 : ℚ) ^ Int.log 2 |q| ≤ |q| :=
      Int.zpow_log_le_self (by decide) (abs_pos.mpr hq)
    calc |nearest p q - q| ≤ unit p q / 2 := nearest_near_unit p q
      _ = 2 ^ Int.log 2 |q| / 2 ^ p := by
          rw [zpow_log_eq p]
          field_simp
      _ ≤ |q| / 2 ^ p := by gcongr

theorem nearest_le (p : Nat) (h : 0 ≤ q) : nearest p q ≤ q * (1 + 1 / 2 ^ p) := by
  have hnear := (abs_le.mp (nearest_near p q)).2
  rw [abs_of_nonneg h] at hnear
  rw [mul_add, mul_one, mul_one_div]
  linarith

theorem le_nearest (p : Nat) (h : 0 ≤ q) : q * (1 - 1 / 2 ^ p) ≤ nearest p q := by
  have hnear := (abs_le.mp (nearest_near p q)).1
  rw [abs_of_nonneg h] at hnear
  rw [mul_sub, mul_one, mul_one_div]
  linarith

theorem nearest_nonneg (h : 0 ≤ q) : 0 ≤ nearest p q := by
  by_cases hq : q = 0
  · simp [hq]
  · have hunit := unit_pos p q
    have hfloor : 0 ≤ roundHalfEven (q / unit p q) :=
      (Int.floor_nonneg.mpr (div_nonneg h hunit.le)).trans (floor_le_roundHalfEven _)
    rw [nearest_of_ne hq]
    exact mul_nonneg (by exact_mod_cast hfloor) hunit.le

/-- Nothing but zero is rounded to zero. -/
theorem nearest_eq_zero (hp : 0 < p) : nearest p q = 0 ↔ q = 0 := by
  refine ⟨fun h => ?_, fun h => by rw [h, nearest_zero]⟩
  by_contra hq
  have hnear := nearest_near p q
  have hpos := abs_pos.mpr hq
  have hpow : (1 : ℚ) < 2 ^ p := one_lt_pow₀ (by norm_num) hp.ne'
  rw [h, zero_sub, abs_neg, le_div_iff₀ (by positivity)] at hnear
  nlinarith

/-- A rounded number lies between the same powers of two. -/
theorem nearest_bounds (hp : 0 < p) (h : 0 < q) :
    (2 : ℚ) ^ Int.log 2 |q| ≤ nearest p q ∧ nearest p q ≤ 2 ^ (Int.log 2 |q| + 1) := by
  have hunit := unit_pos p q
  obtain ⟨k, rfl⟩ := Nat.exists_eq_succ_of_ne_zero hp.ne'
  have hlow : ((2 ^ k : Int) : ℚ) ≤ q / unit (k + 1) q := by
    have hlog := Int.zpow_log_le_self (b := 2) (by decide) (abs_pos.mpr h.ne')
    rw [Nat.cast_ofNat, zpow_log_eq (k + 1), abs_of_pos h] at hlog
    rw [le_div_iff₀ hunit]
    push_cast
    rwa [pow_succ, mul_div_assoc, div_self (by norm_num), mul_one] at hlog
  have hhigh : q / unit (k + 1) q ≤ ((2 ^ (k + 1) : Int) : ℚ) := by
    have hlog := Int.lt_zpow_succ_log_self (b := 2) (by decide) |q|
    rw [Nat.cast_ofNat, zpow_log_succ_eq (k + 1), abs_of_pos h] at hlog
    rw [div_le_iff₀ hunit]
    push_cast
    exact hlog.le
  have hlow' := roundHalfEven_mono hlow
  have hhigh' := roundHalfEven_mono hhigh
  rw [roundHalfEven_intCast] at hlow' hhigh'
  rw [nearest_of_ne h.ne', zpow_log_eq (k + 1), zpow_log_succ_eq (k + 1)]
  constructor
  · refine mul_le_mul_of_nonneg_right ?_ hunit.le
    rw [pow_succ, mul_div_assoc, div_self (by norm_num), mul_one]
    exact_mod_cast hlow'
  · refine mul_le_mul_of_nonneg_right ?_ hunit.le
    exact_mod_cast hhigh'

theorem nearest_mono (hp : 0 < p) (h0 : 0 ≤ q) (h : q ≤ r) : nearest p q ≤ nearest p r := by
  rcases lt_or_eq_of_le h0 with hq | rfl
  · have hr := hq.trans_le h
    have habs : |q| ≤ |r| := by rwa [abs_of_pos hq, abs_of_pos hr]
    rcases lt_or_eq_of_le (Int.log_mono_right (b := 2) (abs_pos.mpr hq.ne') habs) with hlt | heq
    · calc nearest p q ≤ 2 ^ (Int.log 2 |q| + 1) := (nearest_bounds hp hq).2
        _ ≤ 2 ^ Int.log 2 |r| := zpow_le_zpow_right₀ (by norm_num) hlt
        _ ≤ nearest p r := (nearest_bounds hp hr).1
    · have hunit : unit p q = unit p r := by rw [unit, unit, heq]
      have hpos := unit_pos p r
      rw [nearest_of_ne hq.ne', nearest_of_ne hr.ne', hunit]
      refine mul_le_mul_of_nonneg_right ?_ hpos.le
      exact_mod_cast roundHalfEven_mono (div_le_div_of_nonneg_right h hpos.le)
  · rw [nearest_zero]
    exact nearest_nonneg h

/-- A number of no more than `p` bits, and a power of two behind them, is kept. -/
theorem nearest_of_multiple {s e : Int} (hs : |s| < 2 ^ p) :
    nearest p (s * 2 ^ e) = s * 2 ^ e := by
  by_cases hq : (s * 2 ^ e : ℚ) = 0
  · rw [hq, nearest_zero]
  have hlog : Int.log 2 |(s * 2 ^ e : ℚ)| < p + e := by
    rw [← Int.lt_zpow_iff_log_lt (by decide) (abs_pos.mpr hq), abs_mul, Nat.cast_ofNat,
      zpow_add₀ (by norm_num), zpow_natCast, abs_of_pos (zpow_pos (by norm_num : (0 : ℚ) < 2) e)]
    refine mul_lt_mul_of_pos_right ?_ (zpow_pos (by norm_num) e)
    exact_mod_cast hs
  obtain ⟨k, hk⟩ := Int.eq_ofNat_of_zero_le (show
    0 ≤ e - (Int.log 2 |(s * 2 ^ e : ℚ)| + 1 - p) by omega)
  have hunit : (2 : ℚ) ^ e = 2 ^ k * unit p (s * 2 ^ e) := by
    rw [unit, ← zpow_natCast, ← zpow_add₀ (by norm_num), ← hk]
    ring_nf
  have hquotient : (s * 2 ^ e : ℚ) / unit p (s * 2 ^ e) = ((s * 2 ^ k : Int) : ℚ) := by
    rw [div_eq_iff (unit_pos _ _).ne']
    conv => lhs; rw [hunit]
    push_cast
    ring
  rw [nearest_of_ne hq, hquotient, roundHalfEven_intCast, ← hquotient,
    div_mul_cancel₀ _ (unit_pos _ _).ne']

/-- A number is rounded to another one only from half a unit of the latter. -/
theorem near_of_nearest_eq (hp : 0 < p) (hr : 0 < r) (h : nearest p r = q) :
    |r - q| ≤ unit p q / 2 := by
  have hlow := (nearest_bounds hp hr).1
  rw [h] at hlow
  have hq : 0 < q := (zpow_pos (by norm_num) _).trans_le hlow
  have hlog : Int.log 2 |r| ≤ Int.log 2 |q| := by
    rw [← Int.zpow_le_iff_le_log (by decide) (abs_pos.mpr hq.ne'), abs_of_pos hq]
    exact_mod_cast hlow
  have hunit : unit p r ≤ unit p q := zpow_le_zpow_right₀ (by norm_num) (by omega)
  have hnear := nearest_near_unit p r
  rw [h, abs_sub_comm] at hnear
  linarith

/-- A number less than half a unit from one of `p` bits, and not below the power of two there,
    is rounded to it. -/
theorem nearest_of_near (hq : Representable p q) (hpos : 0 < q)
    (hlow : (2 : ℚ) ^ Int.log 2 |q| ≤ r) (hnear : |r - q| < unit p q / 2) :
    nearest p r = q := by
  have hunit := unit_pos p q
  have hr : 0 < r := (zpow_pos (by norm_num) _).trans_le hlow
  have hmultiple : roundHalfEven (q / unit p q) * unit p q = q :=
    (nearest_of_ne hpos.ne').symm.trans hq
  generalize roundHalfEven (q / unit p q) = n at hmultiple
  -- the power of two above is at least one unit away
  have hbelow : q < 2 ^ p * unit p q := by
    have hlog := Int.lt_zpow_succ_log_self (b := 2) (by decide) |q|
    rwa [Nat.cast_ofNat, zpow_log_succ_eq p, abs_of_pos hpos] at hlog
  have hn : (n + 1 : Int) ≤ 2 ^ p := by
    have hcast : (n : ℚ) < ((2 ^ p : Int) : ℚ) := by
      push_cast
      exact lt_of_mul_lt_mul_right (hmultiple.le.trans_lt hbelow) hunit.le
    exact Int.add_one_le_of_lt (by exact_mod_cast hcast)
  have hroom : q + unit p q ≤ 2 ^ p * unit p q := by
    have hcast : ((n + 1 : Int) : ℚ) ≤ ((2 ^ p : Int) : ℚ) := by exact_mod_cast hn
    calc q + unit p q = ((n + 1 : Int) : ℚ) * unit p q := by
          push_cast
          rw [add_mul, one_mul, hmultiple]
      _ ≤ ((2 ^ p : Int) : ℚ) * unit p q := mul_le_mul_of_nonneg_right hcast hunit.le
      _ = 2 ^ p * unit p q := by push_cast; rfl
  have habs := abs_lt.mp hnear
  have hhigh : r < 2 ^ (Int.log 2 |q| + 1) := by
    rw [zpow_log_succ_eq p]
    linarith
  have hlog : Int.log 2 |r| = Int.log 2 |q| := by
    rw [abs_of_pos hr]
    refine le_antisymm (Int.lt_add_one_iff.mp ?_) ?_
    · rw [← Int.lt_zpow_iff_log_lt (by decide) hr]
      exact_mod_cast hhigh
    · rw [← Int.zpow_le_iff_le_log (by decide) hr]
      exact_mod_cast hlow
  have hsame : unit p r = unit p q := by rw [unit, unit, hlog]
  have hround : roundHalfEven (r / unit p q) = n := by
    refine roundHalfEven_of_near ?_
    have hquotient : (n : ℚ) = q / unit p q := (eq_div_iff hunit.ne').mpr hmultiple
    rw [hquotient, ← sub_div, abs_div, abs_of_pos hunit, div_lt_iff₀ hunit]
    linarith
  rw [nearest_of_ne hr.ne', hsame, hround, hmultiple]

/-- An integer is rounded to an integer. -/
theorem exists_nearest_intCast (p : Nat) (n : Int) : ∃ m : Int, nearest p n = m := by
  by_cases hn : (n : ℚ) = 0
  · exact ⟨0, by rw [hn, nearest_zero, Int.cast_zero]⟩
  rw [nearest_of_ne hn]
  rcases le_total 0 (Int.log 2 |(n : ℚ)| + 1 - p) with hexp | hexp
  · obtain ⟨k, hk⟩ := Int.eq_ofNat_of_zero_le hexp
    refine ⟨roundHalfEven (n / unit p n) * 2 ^ k, ?_⟩
    rw [unit, hk]
    push_cast
    rfl
  · obtain ⟨k, hk⟩ := Int.eq_ofNat_of_zero_le (neg_nonneg.mpr hexp)
    have hunit : unit p (n : ℚ) = (2 ^ k)⁻¹ := by
      rw [unit, ← neg_neg (_ - _), hk, zpow_neg, zpow_natCast]
    have hquotient : (n : ℚ) / unit p n = ((n * 2 ^ k : Int) : ℚ) := by
      rw [hunit, div_inv_eq_mul]
      push_cast
      rfl
    refine ⟨n, ?_⟩
    rw [hquotient, roundHalfEven_intCast, ← hquotient, div_mul_cancel₀ _ (unit_pos _ _).ne']

/-- From a power of two on, the numbers of `p` bits are multiples of one unit. -/
theorem Representable.exists_multiple {k : Int} (h : Representable p q) (hk : (2 : ℚ) ^ k ≤ q) :
    ∃ m : Int, q = m * 2 ^ (k + 1 - p) := by
  have hpos : 0 < q := (zpow_pos (by norm_num) k).trans_le hk
  have hlog : k ≤ Int.log 2 |q| := by
    rw [← Int.zpow_le_iff_le_log (by decide) (abs_pos.mpr hpos.ne'), abs_of_pos hpos]
    exact_mod_cast hk
  obtain ⟨j, hj⟩ := Int.eq_ofNat_of_zero_le (sub_nonneg.mpr hlog)
  refine ⟨roundHalfEven (q / unit p q) * 2 ^ j, ?_⟩
  have hunit : unit p q = 2 ^ j * 2 ^ (k + 1 - p) := by
    rw [unit, ← zpow_natCast, ← zpow_add₀ (by norm_num)]
    congr 1
    omega
  have hq : roundHalfEven (q / unit p q) * unit p q = q := (nearest_of_ne hpos.ne').symm.trans h
  generalize roundHalfEven (q / unit p q) = s at hq ⊢
  rw [← hq, hunit]
  push_cast
  ring

/-- Below a bound that is a multiple of the unit there, the greatest number of `p` bits is the
    multiple before it. -/
theorem Representable.le_of_lt {k m : Int} (h : Representable p q)
    (hk : (2 : ℚ) ^ k ≤ (m - 1 : Int) * 2 ^ (k + 1 - p)) (hlt : q < m * 2 ^ (k + 1 - p)) :
    q ≤ (m - 1 : Int) * 2 ^ (k + 1 - p) := by
  rcases le_or_gt ((2 : ℚ) ^ k) q with hge | hsmall
  · have hunit : (0 : ℚ) < 2 ^ (k + 1 - p) := zpow_pos (by norm_num) _
    obtain ⟨n, rfl⟩ := h.exists_multiple hge
    have hn : n < m := by exact_mod_cast lt_of_mul_lt_mul_right hlt hunit.le
    refine mul_le_mul_of_nonneg_right ?_ hunit.le
    exact_mod_cast Int.le_sub_one_of_lt hn
  · exact hsmall.le.trans hk

end Rounding

end SignificantBits
