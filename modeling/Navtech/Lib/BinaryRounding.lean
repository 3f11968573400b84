/-
  The order of the numbers of a binary format, and rounding.

  Rounding to a number of significant bits keeps the order (`roundNat_mono`) and the numbers that
  have no more bits (`roundNat_of_multiple`), so a bound that is such a number survives it.
  Encoding keeps the order too (`encodeMagnitude_mono`); decoding the pattern gives the rounded
  number (`magnitude_encodeMagnitude`), and no number of the format is nearer (`nearest`).
-/
import Mathlib.Algebra.Group.Nat.Defs
import Mathlib.Algebra.Order.Group.Abs
import Mathlib.Tactic.Linarith
import Mathlib.Tactic.Ring
import Navtech.Lib.BinaryFloat

namespace BinaryFloat

/-! ## Rounding to a multiple -/

section Shift

variable {k m n p : Nat}

theorem div_le_roundShift : n / 2 ^ k ≤ roundShift k n := by
  unfold roundShift
  dsimp only
  split <;> omega

theorem roundShift_le_div : roundShift k n ≤ n / 2 ^ k + 1 := by
  unfold roundShift
  dsimp only
  split <;> omega

theorem roundShift_mono (h : m ≤ n) : roundShift k m ≤ roundShift k n := by
  have hquotient : m / 2 ^ k ≤ n / 2 ^ k := Nat.div_le_div_right h
  rcases Nat.lt_or_eq_of_le hquotient with hlt | heq
  · exact roundShift_le_div.trans (Nat.le_trans hlt div_le_roundShift)
  · -- in the same interval the remainders decide
    have hm := Nat.div_add_mod m (2 ^ k)
    have hn := Nat.div_add_mod n (2 ^ k)
    rw [heq] at hm
    have hremainder : m % 2 ^ k ≤ n % 2 ^ k := by omega
    unfold roundShift
    dsimp only
    rw [heq]
    split
    · rw [if_pos (by omega)]
    · split <;> omega

theorem roundShift_le (h : n < 2 ^ (p + k)) : roundShift k n ≤ 2 ^ p := by
  have hdiv : n / 2 ^ k < 2 ^ p := by
    rwa [Nat.div_lt_iff_lt_mul (Nat.two_pow_pos k), ← pow_add]
  exact roundShift_le_div.trans hdiv

theorem le_roundShift (h : 2 ^ (p + k) ≤ n) : 2 ^ p ≤ roundShift k n := by
  refine le_trans ?_ div_le_roundShift
  rwa [Nat.le_div_iff_mul_le (Nat.two_pow_pos k), ← pow_add]

/-- Half a multiple is the most that is rounded off or up. -/
theorem roundShift_error (k n : Nat) :
    2 * (roundShift k n * 2 ^ k) ≤ 2 * n + 2 ^ k ∧
      2 * n ≤ 2 * (roundShift k n * 2 ^ k) + 2 ^ k := by
  have hn := Nat.div_add_mod n (2 ^ k)
  have hlt := Nat.mod_lt n (Nat.two_pow_pos k)
  rw [Nat.mul_comm] at hn
  unfold roundShift
  dsimp only
  split
  · rw [Nat.succ_mul (n / 2 ^ k)]
    omega
  · omega

/-- A multiple that is nearer than half a multiple is the one. -/
theorem roundShift_eq {s : Nat} (hlo : 2 * (s * 2 ^ k) < 2 * n + 2 ^ k)
    (hhi : 2 * n < 2 * (s * 2 ^ k) + 2 ^ k) : roundShift k n = s := by
  obtain ⟨hle, hge⟩ := roundShift_error k n
  have hpos := Nat.two_pow_pos k
  have hlt : roundShift k n < s + 1 := by
    refine Nat.lt_of_mul_lt_mul_right (a := 2 ^ k) ?_
    rw [Nat.succ_mul]
    omega
  have hgt : s < roundShift k n + 1 := by
    refine Nat.lt_of_mul_lt_mul_right (a := 2 ^ k) ?_
    rw [Nat.succ_mul]
    omega
  omega

end Shift

/-! ## Rounding to significant bits -/

/-- A natural number rounded to `p` significant bits. -/
def roundNat (p n : Nat) : Nat :=
  roundShift (n.log2 + 1 - p) n * 2 ^ (n.log2 + 1 - p)

theorem roundTo_eq (p : Nat) (n : Int) : roundTo p n = n.sign * (roundNat p n.natAbs : Int) := rfl

theorem roundNat_zero (p : Nat) : roundNat p 0 = 0 := by
  have hzero : roundShift (Nat.log2 0 + 1 - p) 0 = 0 := by
    have h := roundShift_mul (Nat.log2 0 + 1 - p) 0
    rwa [Nat.zero_mul] at h
  unfold roundNat
  rw [hzero, Nat.zero_mul]

theorem roundTo_natCast (p n : Nat) : roundTo p (n : Int) = roundNat p n := by
  rw [roundTo_eq, Int.natAbs_natCast]
  by_cases hn : n = 0
  · rw [hn, roundNat_zero, Nat.cast_zero, mul_zero]
  · rw [Int.sign_natCast_of_ne_zero hn, one_mul]

theorem roundTo_neg_natCast (p n : Nat) : roundTo p (-(n : Int)) = -(roundNat p n : Int) := by
  rw [roundTo_eq, Int.natAbs_neg, Int.natAbs_natCast, Int.sign_neg, neg_mul]
  by_cases hn : n = 0
  · rw [hn, roundNat_zero, Nat.cast_zero, mul_zero]
  · rw [Int.sign_natCast_of_ne_zero hn, one_mul]

section Bits

variable {p m n : Nat}

theorem log2_mono (hm : m ≠ 0) (h : m ≤ n) : m.log2 ≤ n.log2 :=
  (Nat.le_log2 (by omega)).mpr ((Nat.log2_self_le hm).trans h)

theorem roundNat_bounds (hp : 0 < p) (hn : n ≠ 0) :
    2 ^ n.log2 ≤ roundNat p n ∧ roundNat p n ≤ 2 ^ (n.log2 + 1) := by
  have hlow := Nat.log2_self_le hn
  have hhigh := Nat.lt_log2_self (n := n)
  unfold roundNat
  by_cases hk : n.log2 + 1 - p = 0
  · rw [hk, roundShift_zero, pow_zero, Nat.mul_one]
    exact ⟨hlow, hhigh.le⟩
  · have hlog : n.log2 = p - 1 + (n.log2 + 1 - p) := by omega
    have hlog' : n.log2 + 1 = p + (n.log2 + 1 - p) := by omega
    constructor
    · conv => lhs; rw [hlog, pow_add]
      refine Nat.mul_le_mul_right _ (le_roundShift ?_)
      rwa [← hlog]
    · conv => rhs; rw [hlog', pow_add]
      refine Nat.mul_le_mul_right _ (roundShift_le ?_)
      rwa [← hlog']

theorem roundNat_mono (hp : 0 < p) (h : m ≤ n) : roundNat p m ≤ roundNat p n := by
  by_cases hm : m = 0
  · rw [hm, roundNat_zero]
    exact Nat.zero_le _
  have hn : n ≠ 0 := by omega
  rcases Nat.lt_or_eq_of_le (log2_mono hm h) with hlt | heq
  · calc roundNat p m ≤ 2 ^ (m.log2 + 1) := (roundNat_bounds hp hm).2
      _ ≤ 2 ^ n.log2 := Nat.pow_le_pow_right (by decide) hlt
      _ ≤ roundNat p n := (roundNat_bounds hp hn).1
  · unfold roundNat
    rw [heq]
    exact Nat.mul_le_mul_right _ (roundShift_mono h)

/-- Where rounding reaches a bound. -/
theorem roundNat_lt_iff {tie top : Nat} (hp : 0 < p) (hbelow : roundNat p tie < top)
    (htie : roundNat p (tie + 1) = top) : roundNat p n < top ↔ n < tie + 1 := by
  constructor
  · intro h
    by_contra hge
    have hle := roundNat_mono hp (not_lt.mp hge)
    omega
  · intro h
    exact lt_of_le_of_lt (roundNat_mono hp (Nat.le_of_lt_succ h)) hbelow

theorem roundNat_le_add {k : Nat} (h : n < 2 ^ (p + k + 1)) : roundNat p n ≤ n + 2 ^ k := by
  by_cases hn : n = 0
  · rw [hn, roundNat_zero]
    exact Nat.zero_le _
  have hlog : n.log2 + 1 - p ≤ k + 1 := by
    have hlt := (Nat.log2_lt hn).mpr h
    omega
  have hpow : 2 ^ (n.log2 + 1 - p) ≤ 2 * 2 ^ k := by
    rw [← pow_succ']
    exact Nat.pow_le_pow_right (by decide) hlog
  have herror := (roundShift_error (n.log2 + 1 - p) n).1
  unfold roundNat
  omega

/-- Between two powers of two the multiples are the same. -/
theorem roundNat_of_binade {k : Nat} (hp : 0 < p) (hlo : 2 ^ (p - 1 + k) ≤ n)
    (hhi : n ≤ 2 ^ (p + k)) : roundNat p n = roundShift k n * 2 ^ k := by
  rcases Nat.lt_or_eq_of_le hhi with hlt | heq
  · have hlog : n.log2 = p - 1 + k := by
      refine (Nat.log2_eq_iff (Nat.pos_of_ne_zero ?_).ne').mpr ⟨hlo, ?_⟩
      · exact (lt_of_lt_of_le (Nat.two_pow_pos _) hlo).ne'
      · rwa [show p - 1 + k + 1 = p + k by omega]
    unfold roundNat
    rw [hlog, show p - 1 + k + 1 - p = k by omega]
  · have htop : roundNat p (2 ^ (p + k)) = 2 ^ (p + k) := by
      have hsplit : 2 ^ (p + k) = 2 ^ (p - 1) * 2 ^ (k + 1) := by
        rw [← pow_add]
        congr 1
        omega
      unfold roundNat
      rw [Nat.log2_two_pow, show p + k + 1 - p = k + 1 by omega, hsplit, roundShift_mul]
    rw [heq, htop, pow_add, roundShift_mul]

/-- A number of no more than `p` bits, and a power of two behind them, is kept. -/
theorem roundNat_of_multiple {s j : Nat} (hs : s ≤ 2 ^ p) (hp : 0 < p) :
    roundNat p (s * 2 ^ j) = s * 2 ^ j := by
  have hle : s * 2 ^ j ≤ 2 ^ (p + j) := by
    rw [pow_add]
    exact Nat.mul_le_mul_right _ hs
  by_cases hzero : s * 2 ^ j = 0
  · rw [hzero, roundNat_zero]
  rcases Nat.lt_or_eq_of_le hle with hlt | heq
  · have hlog : (s * 2 ^ j).log2 + 1 - p ≤ j := by
      have h := (Nat.log2_lt hzero).mpr hlt
      omega
    have hsplit : s * 2 ^ j = s * 2 ^ (j - ((s * 2 ^ j).log2 + 1 - p)) *
        2 ^ ((s * 2 ^ j).log2 + 1 - p) := by
      rw [Nat.mul_assoc, ← pow_add, Nat.sub_add_cancel hlog]
    unfold roundNat
    conv => lhs; arg 1; arg 2; rw [hsplit]
    rw [roundShift_mul]
    exact hsplit.symm
  · rw [roundNat_of_binade hp (k := j) ?_ hle, roundShift_mul]
    rw [heq]
    exact Nat.pow_le_pow_right (by decide) (by omega)

/-- A number of `p` bits, with the leading bit or as the next power of two. -/
theorem exists_leading (hp : 0 < p) (hn : 2 ^ p ≤ n) (h : roundNat p n = n) :
    ∃ s j, 2 ^ (p - 1) < s ∧ s ≤ 2 ^ p ∧ n = s * 2 ^ j := by
  have hne : n ≠ 0 := (lt_of_lt_of_le (Nat.two_pow_pos p) hn).ne'
  have hlog : p ≤ n.log2 := (Nat.le_log2 hne).mpr hn
  obtain ⟨k, hk⟩ := Nat.exists_eq_add_of_le hlog
  have hshift : n.log2 + 1 - p = k + 1 := by omega
  have hlo : 2 ^ (p - 1) ≤ roundShift (k + 1) n := by
    refine le_roundShift ?_
    rw [show p - 1 + (k + 1) = n.log2 by omega]
    exact Nat.log2_self_le hne
  have hhi : roundShift (k + 1) n ≤ 2 ^ p := by
    refine roundShift_le ?_
    rw [show p + (k + 1) = n.log2 + 1 by omega]
    exact Nat.lt_log2_self
  unfold roundNat at h
  rw [hshift] at h
  rcases Nat.lt_or_eq_of_le hlo with hlt | heq
  · exact ⟨_, _, hlt, hhi, h.symm⟩
  · refine ⟨2 ^ p, k, Nat.pow_lt_pow_right (by decide) (by omega), le_rfl, ?_⟩
    rw [← h, ← heq, ← pow_add, ← pow_add]
    congr 1
    omega

/-- A number of `p` bits absorbs a little that is taken from it. -/
theorem roundNat_absorb {s j : Nat} (hp : 0 < p) (hs : 2 ^ (p - 1) < s) (hs' : s ≤ 2 ^ p)
    (hclose : 2 * (s * 2 ^ j) < 2 * n + 2 ^ j) (hle : n ≤ s * 2 ^ j) :
    roundNat p n = s * 2 ^ j := by
  have hpos := Nat.two_pow_pos j
  have hnext : 2 ^ (p - 1) * 2 ^ j + 2 ^ j ≤ s * 2 ^ j := by
    rw [← Nat.succ_mul]
    exact Nat.mul_le_mul_right _ hs
  have hlo : 2 ^ (p - 1 + j) ≤ n := by
    rw [pow_add]
    omega
  have hhi : n ≤ 2 ^ (p + j) := by
    rw [pow_add]
    exact hle.trans (Nat.mul_le_mul_right _ hs')
  rw [roundNat_of_binade hp hlo hhi, roundShift_eq hclose (by omega)]

end Bits

/-! ## Encoding -/

section Encoding

variable {f : Format} {low m n : Nat}

theorem encodeMagnitude_mono (h : m ≤ n) : encodeMagnitude f m ≤ encodeMagnitude f n := by
  refine min_le_min_right _ ?_
  by_cases hm : m = 0
  · have hzero : roundShift 0 0 = 0 := roundShift_zero 0
    rw [hm, Nat.log2_zero, Nat.zero_sub, hzero, Nat.zero_mul]
    exact Nat.zero_le _
  have hn : n ≠ 0 := by omega
  rcases Nat.lt_or_eq_of_le (log2_mono hm h) with hlt | heq
  · by_cases hsmall : n.log2 - f.fractionBits = 0
    · rw [hsmall, show m.log2 - f.fractionBits = 0 by omega, roundShift_zero, roundShift_zero]
      exact Nat.add_le_add_left h _
    · -- the pattern of the one ends where that of the other begins
      have hupper : roundShift (m.log2 - f.fractionBits) m ≤ 2 ^ (f.fractionBits + 1) := by
        refine roundShift_le (lt_of_lt_of_le Nat.lt_log2_self ?_)
        exact Nat.pow_le_pow_right (by decide) (by omega)
      have hlower : 2 ^ f.fractionBits ≤ roundShift (n.log2 - f.fractionBits) n := by
        refine le_roundShift (le_trans ?_ (Nat.log2_self_le hn))
        exact Nat.pow_le_pow_right (by decide) (by omega)
      have hexponents : (m.log2 - f.fractionBits + 1) * 2 ^ f.fractionBits ≤
          (n.log2 - f.fractionBits) * 2 ^ f.fractionBits :=
        Nat.mul_le_mul_right _ (by omega)
      rw [pow_succ] at hupper
      rw [Nat.succ_mul] at hexponents
      omega
  · rw [heq]
    exact Nat.add_le_add_left (roundShift_mono h) _

@[simp] theorem magnitude_zero (f : Format) : magnitude f 0 = 0 := by simp [magnitude]

theorem encodeMagnitude_zero (f : Format) : encodeMagnitude f 0 = 0 := by
  have h := encodeMagnitude_magnitude (infinity_pos f)
  rwa [magnitude_zero] at h

theorem magnitude_pattern {exponent fraction : Nat} (h : fraction < 2 ^ f.fractionBits) :
    magnitude f (exponent * 2 ^ f.fractionBits + fraction) =
      if exponent = 0 then fraction
      else (2 ^ f.fractionBits + fraction) * 2 ^ (exponent - 1) := by
  have hdiv : (exponent * 2 ^ f.fractionBits + fraction) / 2 ^ f.fractionBits = exponent := by
    rw [Nat.mul_comm, Nat.mul_add_div (Nat.two_pow_pos _), Nat.div_eq_of_lt h, Nat.add_zero]
  have hmod : (exponent * 2 ^ f.fractionBits + fraction) % 2 ^ f.fractionBits = fraction := by
    rw [Nat.mul_comm, Nat.mul_add_mod, Nat.mod_eq_of_lt h]
  unfold magnitude
  rw [hdiv, hmod]

/-- A number of the format is one of no more bits than it has, and a power of two behind them. -/
theorem magnitude_eq_mul (f : Format) (low : Nat) :
    ∃ s j, s < 2 ^ (f.fractionBits + 1) ∧ magnitude f low = s * 2 ^ j := by
  have hfraction := Nat.mod_lt low (Nat.two_pow_pos f.fractionBits)
  unfold magnitude
  dsimp only
  rw [pow_succ]
  split
  · exact ⟨low % 2 ^ f.fractionBits, 0, by omega, (Nat.mul_one _).symm⟩
  · exact ⟨2 ^ f.fractionBits + low % 2 ^ f.fractionBits, low / 2 ^ f.fractionBits - 1, by omega,
      rfl⟩

/-- Rounding to the bits that the format has. -/
theorem roundNat_format (f : Format) (n : Nat) : roundNat (f.fractionBits + 1) n =
    roundShift (n.log2 - f.fractionBits) n * 2 ^ (n.log2 - f.fractionBits) := by
  unfold roundNat
  rw [Nat.add_sub_add_right]

theorem ne_zero_of_shift {k : Nat} (h : n.log2 - k ≠ 0) : n ≠ 0 := by
  rintro rfl
  rw [Nat.log2_zero, Nat.zero_sub] at h
  exact h rfl

/-- Decoding what has been encoded rounds to the bits that the format has. -/
theorem magnitude_encodeMagnitude (h : encodeMagnitude f n < f.infinity) :
    magnitude f (encodeMagnitude f n) = roundNat (f.fractionBits + 1) n := by
  have hpattern : encodeMagnitude f n = (n.log2 - f.fractionBits) * 2 ^ f.fractionBits +
      roundShift (n.log2 - f.fractionBits) n := by
    unfold encodeMagnitude at h ⊢
    dsimp only at h ⊢
    omega
  have hupper : roundShift (n.log2 - f.fractionBits) n ≤ 2 ^ (f.fractionBits + 1) := by
    refine roundShift_le (lt_of_lt_of_le Nat.lt_log2_self ?_)
    exact Nat.pow_le_pow_right (by decide) (by omega)
  rw [hpattern, roundNat_format]
  have hlower (hk : n.log2 - f.fractionBits ≠ 0) :
      2 ^ f.fractionBits ≤ roundShift (n.log2 - f.fractionBits) n := by
    refine le_roundShift (le_trans ?_ (Nat.log2_self_le (ne_zero_of_shift hk)))
    exact Nat.pow_le_pow_right (by decide) (by omega)
  generalize n.log2 - f.fractionBits = k at hupper hlower ⊢
  generalize roundShift k n = r at hupper hlower ⊢
  rw [pow_succ] at hupper
  rcases Nat.lt_or_ge r (2 ^ f.fractionBits) with hlt | hge
  · -- no leading bit
    obtain rfl : k = 0 := by
      by_contra hk
      have hle := hlower hk
      omega
    rw [magnitude_pattern hlt, if_pos rfl, pow_zero, Nat.mul_one]
  · obtain ⟨fraction, rfl⟩ := Nat.exists_eq_add_of_le hge
    rw [← Nat.add_assoc, ← Nat.succ_mul]
    rcases Nat.lt_or_ge fraction (2 ^ f.fractionBits) with hlt' | hge'
    · rw [magnitude_pattern hlt', if_neg k.succ_ne_zero, Nat.succ_sub_one]
    · -- rounded up to the next power of two
      obtain rfl : fraction = 2 ^ f.fractionBits := by omega
      rw [← Nat.succ_mul, ← Nat.add_zero (_ * _), magnitude_pattern (Nat.two_pow_pos _),
        if_neg (Nat.succ_ne_zero _), Nat.succ_sub_one, Nat.add_zero, pow_succ]
      ring

/-- A number that is no greater than one of the format is encoded as a finite one. -/
theorem encodeMagnitude_lt (hlow : low < f.infinity) (h : n ≤ magnitude f low) :
    encodeMagnitude f n < f.infinity := by
  refine lt_of_le_of_lt (encodeMagnitude_mono h) ?_
  rwa [encodeMagnitude_magnitude hlow]

theorem value_encode {n : Int} (h : encodeMagnitude f n.natAbs < f.infinity) :
    value f (encode f n) = .finite (roundTo (f.fractionBits + 1) n) := by
  have hsign := infinity_lt_signBit f
  have hmagnitude := magnitude_encodeMagnitude h
  unfold encode value
  dsimp only
  rw [roundTo_eq, ← hmagnitude]
  split
  · rename_i hneg
    rw [Nat.add_mod_left, Nat.mod_eq_of_lt (by omega), if_pos h, if_neg (by omega),
      Int.sign_eq_neg_one_of_neg hneg, neg_one_mul]
  · rename_i hneg
    rw [Nat.mod_eq_of_lt (by omega), if_pos h, if_pos (by omega)]
    rcases Int.lt_or_eq_of_le (Int.not_lt.mp hneg) with hpos | hzero
    · rw [Int.sign_eq_one_of_pos hpos, one_mul]
    · rw [← hzero, Int.natAbs_zero, encodeMagnitude_zero, Int.sign_zero, zero_mul, magnitude_zero]
      rfl

theorem value_encode_infinite {n : Int} (h : ¬ encodeMagnitude f n.natAbs < f.infinity) :
    value f (encode f n) = .infinite (decide (n < 0)) := by
  have hsign := infinity_lt_signBit f
  have htop : encodeMagnitude f n.natAbs = f.infinity :=
    Nat.le_antisymm (Nat.min_le_right _ _) (Nat.le_of_not_lt h)
  unfold encode value
  rw [htop]
  dsimp only
  split
  · rename_i hneg
    rw [Nat.add_mod_left, Nat.mod_eq_of_lt hsign, if_neg (lt_irrefl _), if_pos rfl,
      decide_eq_true (Nat.le_add_right _ _), decide_eq_true hneg]
  · rename_i hneg
    rw [Nat.mod_eq_of_lt hsign, if_neg (lt_irrefl _), if_pos rfl,
      decide_eq_false (Nat.not_le_of_lt hsign), decide_eq_false hneg]

/-! ## Nearest numbers -/

/-- No multiple is nearer. -/
theorem roundShift_nearest (k n t : Nat) :
    |((roundShift k n * 2 ^ k : Nat) : Int) - n| ≤ |((t * 2 ^ k : Nat) : Int) - n| := by
  obtain ⟨hle, hge⟩ := roundShift_error k n
  have hstep (a b : Nat) (h : a < b) : a * 2 ^ k + 2 ^ k ≤ b * 2 ^ k := by
    rw [← Nat.succ_mul]
    exact Nat.mul_le_mul_right _ h
  rcases Nat.lt_trichotomy t (roundShift k n) with hlt | heq | hlt
  · have h := hstep _ _ hlt
    rw [abs_le]
    rw [abs_of_nonpos (by omega)]
    omega
  · rw [heq]
  · have h := hstep _ _ hlt
    rw [abs_le]
    rw [abs_of_nonneg (by omega)]
    omega

/-- No number of the format is nearer. -/
theorem nearest (f : Format) (n low : Nat) :
    |(roundNat (f.fractionBits + 1) n : Int) - n| ≤ |(magnitude f low : Int) - n| := by
  rw [roundNat_format]
  have hmultiple (t : Nat) := roundShift_nearest (n.log2 - f.fractionBits) n t
  have hfraction := Nat.mod_lt low (Nat.two_pow_pos f.fractionBits)
  by_cases hk : n.log2 - f.fractionBits = 0
  · have h := hmultiple (magnitude f low)
    rw [hk, pow_zero, Nat.mul_one, Nat.mul_one] at h
    rwa [hk, pow_zero, Nat.mul_one]
  -- what is not a multiple lies below the power of two that `n` is not below
  have hpower : 2 ^ f.fractionBits * 2 ^ (n.log2 - f.fractionBits) ≤ n := by
    rw [← pow_add, Nat.add_sub_cancel' (by omega)]
    exact Nat.log2_self_le (ne_zero_of_shift hk)
  have hbelow (h : magnitude f low ≤ 2 ^ f.fractionBits * 2 ^ (n.log2 - f.fractionBits)) :
      |((roundShift (n.log2 - f.fractionBits) n * 2 ^ (n.log2 - f.fractionBits) : Nat) : Int) - n| ≤
        |(magnitude f low : Int) - n| := by
    refine (hmultiple (2 ^ f.fractionBits)).trans ?_
    rw [abs_of_nonpos (by omega), abs_of_nonpos (by omega)]
    omega
  unfold magnitude at hbelow ⊢
  dsimp only at hbelow ⊢
  split at hbelow
  · rename_i hzero
    rw [if_pos hzero]
    refine hbelow (hfraction.le.trans ?_)
    exact Nat.le_mul_of_pos_right _ (Nat.two_pow_pos _)
  · rename_i hexponent
    rw [if_neg hexponent]
    rcases Nat.lt_or_ge (low / 2 ^ f.fractionBits - 1) (n.log2 - f.fractionBits) with hlt | hge
    · refine hbelow ?_
      have hpow : 2 ^ (low / 2 ^ f.fractionBits - 1) * 2 ≤ 2 ^ (n.log2 - f.fractionBits) := by
        rw [← pow_succ]
        exact Nat.pow_le_pow_right (by decide) hlt
      calc (2 ^ f.fractionBits + low % 2 ^ f.fractionBits) * 2 ^ (low / 2 ^ f.fractionBits - 1)
          ≤ (2 ^ f.fractionBits * 2) * 2 ^ (low / 2 ^ f.fractionBits - 1) :=
            Nat.mul_le_mul_right _ (by omega)
        _ = 2 ^ f.fractionBits * (2 ^ (low / 2 ^ f.fractionBits - 1) * 2) := by ring
        _ ≤ 2 ^ f.fractionBits * 2 ^ (n.log2 - f.fractionBits) := Nat.mul_le_mul_left _ hpow
    · have hsplit : 2 ^ (low / 2 ^ f.fractionBits - 1) =
          2 ^ (low / 2 ^ f.fractionBits - 1 - (n.log2 - f.fractionBits)) *
            2 ^ (n.log2 - f.fractionBits) := by
        rw [← pow_add, Nat.sub_add_cancel hge]
      rw [hsplit, ← Nat.mul_assoc]
      exact hmultiple _

/-- No number of the format, of either sign, is nearer. -/
theorem roundTo_nearest {x : Nat} {m : Int} (n : Int) (h : value f x = .finite m) :
    |roundTo (f.fractionBits + 1) n - n| ≤ |m - n| := by
  obtain ⟨-, hm⟩ := value_finite h
  have hnear := nearest f n.natAbs (x % f.signBit)
  have hzero := nearest f n.natAbs 0
  rw [magnitude_zero] at hzero
  rw [roundTo_eq]
  generalize roundNat (f.fractionBits + 1) n.natAbs = r at hnear hzero ⊢
  generalize magnitude f (x % f.signBit) = low at hnear hm
  simp only [Int.abs_eq_natAbs] at hnear hzero ⊢
  rcases lt_trichotomy n 0 with hneg | rfl | hpos
  · rw [Int.sign_eq_neg_one_of_neg hneg]
    split at hm <;> omega
  · rw [Int.sign_zero]
    omega
  · rw [Int.sign_eq_one_of_pos hpos]
    split at hm <;> omega

/-- The product of a number of the format and a positive whole number, in the format. -/
def mulConst (f : Format) (c x : Nat) : Nat :=
  match value f x with
  | .nan => quiet f x
  | .infinite _ => x
  | .finite m => if m = 0 then x else encode f (m * c)

theorem mulConst_lt {c x : Nat} (hx : x < 2 * f.signBit) : mulConst f c x < 2 * f.signBit := by
  unfold mulConst
  split
  · exact quiet_lt hx
  · exact hx
  · split
    · exact hx
    · exact encode_lt _

/-- Of either zero, the product is a zero. -/
theorem value_mulConst {c x : Nat} {m : Int} (h : value f x = .finite m) :
    value f (mulConst f c x) = value f (encode f (m * c)) := by
  unfold mulConst
  rw [h]
  dsimp only
  split
  · rename_i hzero
    subst hzero
    have hfinite : encodeMagnitude f (Int.natAbs 0) < f.infinity := by
      rw [Int.natAbs_zero, encodeMagnitude_zero]
      exact infinity_pos f
    rw [h, zero_mul, value_encode hfinite, roundTo_eq, Int.sign_zero, zero_mul]
  · rfl

end Encoding

/-- After rounding, cutting off what is below a power of two is as good as not cutting it off. -/
theorem roundNat_cut_iff (p n e : Nat) :
    |((roundNat p n / 2 ^ e * 2 ^ e : Nat) : Int) - n| < 2 ^ e ↔
      |(roundNat p n : Int) - n| < 2 ^ e := by
  have hpos := Nat.two_pow_pos e
  unfold roundNat
  generalize n.log2 + 1 - p = k
  rcases Nat.lt_or_ge k e with hlt | hge
  · -- what is rounded off is less than half, and a multiple of the power is not passed
    have herror := roundShift_error k n
    have hpow : 2 ^ k ≤ 2 ^ e := Nat.pow_le_pow_right (by decide) hlt.le
    have hcast : ((2 ^ e : Nat) : Int) = 2 ^ e := Nat.cast_pow 2 e
    have hclose : |((roundShift k n * 2 ^ k : Nat) : Int) - n| < 2 ^ e := by
      rw [abs_lt]
      omega
    refine iff_of_true ?_ hclose
    have hsplit (a : Nat) : a * 2 ^ e = a * 2 ^ (e - k) * 2 ^ k := by
      rw [Nat.mul_assoc, ← pow_add, Nat.sub_add_cancel hlt.le]
    have hround (a : Nat) : roundShift k (a * 2 ^ e) * 2 ^ k = a * 2 ^ e := by
      rw [hsplit, roundShift_mul]
    have hdiv := Nat.div_add_mod n (2 ^ e)
    have hmod := Nat.mod_lt n hpos
    rw [Nat.mul_comm] at hdiv
    generalize n / 2 ^ e = a at hdiv
    have hlow : a * 2 ^ e ≤ roundShift k n * 2 ^ k := by
      rw [← hround]
      exact Nat.mul_le_mul_right _ (roundShift_mono (by omega))
    have hhigh : roundShift k n * 2 ^ k ≤ (a + 1) * 2 ^ e := by
      rw [← hround]
      refine Nat.mul_le_mul_right _ (roundShift_mono ?_)
      rw [Nat.succ_mul]
      omega
    have hwhole : roundShift k n * 2 ^ k / 2 ^ e = a ∨
        roundShift k n * 2 ^ k / 2 ^ e = a + 1 ∧ a * 2 ^ e < n := by
      by_cases hexact : n = a * 2 ^ e
      · rw [hexact, hround, Nat.mul_div_cancel _ hpos]
        exact .inl rfl
      · have hge := (Nat.le_div_iff_mul_le hpos).mpr hlow
        have hle := Nat.div_le_div_right (c := 2 ^ e) hhigh
        rw [Nat.mul_div_cancel _ hpos] at hle
        omega
    rw [abs_lt]
    rcases hwhole with ha | ⟨ha, hn⟩
    · rw [ha]
      omega
    · rw [ha, Nat.succ_mul]
      omega
  · have hsplit : roundShift k n * 2 ^ k = roundShift k n * 2 ^ (k - e) * 2 ^ e := by
      rw [Nat.mul_assoc, ← pow_add, Nat.sub_add_cancel hge]
    rw [hsplit, Nat.mul_div_cancel _ hpos]

end BinaryFloat
