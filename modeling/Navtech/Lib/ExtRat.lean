/-
  Quotients of exact numbers as a floating-point unit gives them: a rational number, or the
  infinity or the not-a-number that a division by zero yields.

  There is one zero, and a finite quotient is the exact one, which may be rounded (`nearest`). Two
  quotients of one number are the same only if the divisors are, or if it is zero that is divided
  and neither divisor is zero (`div_inj`). A quotient may be scaled and shifted by exact numbers;
  all comparisons of what is not a number fail.

  A conversion to an unsigned integer cuts the fraction off, and is defined where the rest has a
  place (`toUnsigned_lt`).
-/
import Mathlib.Algebra.Order.Field.Rat
import Mathlib.Data.Rat.Floor
import Navtech.Lib.SignificantBits

inductive ExtRat where
  | finite (q : ℚ)
  | posInf
  | negInf
  | nan
deriving DecidableEq, Repr

namespace ExtRat

def div (p q : ℚ) : ExtRat :=
  if q = 0 then
    if p = 0 then nan else if 0 < p then posInf else negInf
  else finite (p / q)

def IsFinite : ExtRat → Prop
  | finite _ => True
  | _ => False

theorem isFinite_div {p q : ℚ} : (div p q).IsFinite ↔ q ≠ 0 := by
  unfold div
  split
  · refine iff_of_false ?_ (by simpa using ‹q = 0›)
    split
    · exact id
    · split <;> exact id
  · exact iff_of_true trivial ‹_›

theorem div_of_ne {p q : ℚ} (hq : q ≠ 0) : div p q = finite (p / q) := if_neg hq

/-- When two divisors give the same quotient. -/
theorem div_inj {p q r : ℚ} : div p q = div p r ↔ q = r ∨ p = 0 ∧ q ≠ 0 ∧ r ≠ 0 := by
  have hzero : div p q = div p r → (q = 0 ↔ r = 0) := by
    intro h
    rw [← not_iff_not, ← Ne, ← Ne, ← isFinite_div (p := p), ← isFinite_div (p := p), h]
  constructor
  · intro h
    by_cases hq : q = 0
    · exact .inl (hq.trans ((hzero h).mp hq).symm)
    · have hr : r ≠ 0 := fun hr => hq ((hzero h).mpr hr)
      by_cases hp : p = 0
      · exact .inr ⟨hp, hq, hr⟩
      · rw [div_of_ne hq, div_of_ne hr, finite.injEq, div_eq_div_iff hq hr] at h
        exact .inl (mul_left_cancel₀ hp h).symm
  · intro h
    rcases h with rfl | ⟨rfl, hq, hr⟩
    · rfl
    · rw [div_of_ne hq, div_of_ne hr, zero_div, zero_div]

/-! ## Scaling and shifting -/

/-- The sum with an exact number. -/
def shift : ExtRat → ℚ → ExtRat
  | finite p, q => finite (p + q)
  | x, _ => x

/-- The product with an exact number. -/
def scale : ExtRat → ℚ → ExtRat
  | finite p, q => finite (p * q)
  | posInf, q => div q 0
  | negInf, q => div (-q) 0
  | nan, _ => nan

def isInf : ExtRat → Bool
  | posInf | negInf => true
  | _ => false

/-- The number lies below `q`. -/
def lt : ExtRat → ℚ → Bool
  | finite p, q => decide (p < q)
  | negInf, _ => true
  | _, _ => false

/-- The number lies above `q`. -/
def gt : ExtRat → ℚ → Bool
  | finite p, q => decide (q < p)
  | posInf, _ => true
  | _, _ => false

variable {x : ExtRat} {p q : ℚ}

theorem div_eq_nan : div p q = nan ↔ p = 0 ∧ q = 0 := by
  unfold div
  split
  · rename_i hq
    split
    · rename_i hp
      exact iff_of_true rfl ⟨hp, hq⟩
    · rename_i hp
      refine iff_of_false ?_ fun h => hp h.1
      split <;> exact ExtRat.noConfusion
  · rename_i hq
    exact iff_of_false ExtRat.noConfusion fun h => hq h.2

theorem isInf_div : (div p q).isInf = true ↔ p ≠ 0 ∧ q = 0 := by
  unfold div
  split
  · rename_i hq
    split
    · rename_i hp
      exact iff_of_false (by decide) fun h => h.1 hp
    · rename_i hp
      refine iff_of_true ?_ ⟨hp, hq⟩
      split <;> rfl
  · rename_i hq
    exact iff_of_false (fun h => nomatch h) fun h => hq h.2

theorem shift_eq_nan : x.shift q = nan ↔ x = nan := by
  cases x <;> simp [shift]

theorem isInf_shift : (x.shift q).isInf = x.isInf := by
  cases x <;> rfl

/-- An infinity times zero is not a number. -/
theorem scale_eq_nan : x.scale q = nan ↔ x = nan ∨ x.isInf = true ∧ q = 0 := by
  cases x <;> simp [scale, isInf, div_eq_nan]

/-- A number that is neither infinite nor outside the bounds lies inside them, if it is a
    number. -/
theorem within_or_nan {lo hi : ℚ} (hinf : x.isInf = false) (hlo : x.lt lo = false)
    (hhi : x.gt hi = false) : x = nan ∨ ∃ r, x = finite r ∧ lo ≤ r ∧ r ≤ hi := by
  cases x with
  | finite r =>
    exact .inr ⟨r, rfl, not_lt.mp (of_decide_eq_false hlo), not_lt.mp (of_decide_eq_false hhi)⟩
  | posInf => exact nomatch hinf
  | negInf => exact nomatch hinf
  | nan => exact .inl rfl

/-! ## Quotients by quotients, rounding and conversion -/

/-- The quotient by what may be a quotient itself. -/
def quotient (p : ℚ) : ExtRat → ExtRat
  | finite q => div p q
  | posInf | negInf => finite 0
  | nan => nan

/-- The number, rounded to `p` bits. -/
def nearest (p : Nat) : ExtRat → ExtRat
  | finite q => finite (SignificantBits.nearest p q)
  | x => x

theorem nearest_eq_zero {p : Nat} (hp : 0 < p) : x.nearest p = finite 0 ↔ x = finite 0 := by
  cases x <;> simp [nearest, SignificantBits.nearest_eq_zero hp]

/-- The least integer that is not below. -/
def ceil : ExtRat → ExtRat
  | finite q => finite ⌈q⌉
  | x => x

/-- A conversion to an unsigned integer of `width` bits. There is none for a number whose whole
    part is not such an integer. -/
def toUnsigned (width : Nat) : ExtRat → Option Nat
  | finite q => if -1 < q ∧ q < 2 ^ width then some ⌊q⌋.toNat else none
  | _ => none

theorem toUnsigned_lt {width n : Nat} (h : x.toUnsigned width = some n) : n < 2 ^ width := by
  unfold toUnsigned at h
  split at h
  · split at h
    · rename_i q hbounds
      obtain rfl := Option.some.inj h
      have hfloor : ⌊q⌋ < ((2 ^ width : Nat) : ℤ) := by
        rw [Int.floor_lt]
        exact_mod_cast hbounds.2
      have hpos := Nat.two_pow_pos width
      omega
    · cases h
  · cases h

theorem toUnsigned_intCast {width : Nat} {z : ℤ} {n : Nat} :
    (finite (z : ℚ)).toUnsigned width = some n ↔ z = n ∧ n < 2 ^ width := by
  have hlo : (-1 : ℚ) < z ↔ 0 ≤ z := by
    rw [← Int.cast_one, ← Int.cast_neg, Int.cast_lt]
    omega
  have hhi : (z : ℚ) < 2 ^ width ↔ z < 2 ^ width := by
    rw [← Int.cast_ofNat, ← Int.cast_pow, Int.cast_lt]
  unfold toUnsigned
  dsimp only
  simp only [hlo, hhi, Int.floor_intCast]
  constructor
  · intro h
    split at h
    · rename_i hbounds
      obtain rfl := Option.some.inj h
      have hz := Int.toNat_of_nonneg hbounds.1
      refine ⟨hz.symm, ?_⟩
      have hlt := hbounds.2
      rw [← hz] at hlt
      exact_mod_cast hlt
    · cases h
  · rintro ⟨rfl, hlt⟩
    rw [if_pos ⟨Int.natCast_nonneg n, by exact_mod_cast hlt⟩, Int.toNat_natCast]

end ExtRat
