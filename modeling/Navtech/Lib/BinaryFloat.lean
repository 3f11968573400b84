/-
  Binary floating-point formats: bit patterns, the numbers they stand for, and sums rounded to
  nearest with ties to even.

  Every finite number of a format is a whole multiple of its smallest positive one, so numbers
  are integers, counted in this unit, and sums are exact before they are rounded. Without the
  sign, the patterns of the finite numbers are those below `infinity`, in the order of their
  magnitudes. Rounding a number that has a pattern gives the pattern back (`encode_value`), so
  adding it to zero does too (`add_zero_left`); a sum with positive zero is never negative
  zero (`add_zero_ne_signBit`).
-/
import Mathlib.Algebra.Order.Ring.Nat
import Mathlib.Algebra.Order.Ring.Int
import Mathlib.Data.Nat.Bitwise

namespace BinaryFloat

/-- The widths of the fraction and of the exponent. -/
structure Format where
  fractionBits : Nat
  exponentBits : Nat
  fraction_pos : 0 < fractionBits
  exponent_pos : 0 < exponentBits

namespace Format

/-- The pattern of positive infinity. -/
def infinity (f : Format) : Nat := (2 ^ f.exponentBits - 1) * 2 ^ f.fractionBits

/-- The pattern of negative zero. -/
def signBit (f : Format) : Nat := 2 ^ (f.exponentBits + f.fractionBits)

/-- The number 1. -/
def one (f : Format) : Nat := 2 ^ (2 ^ (f.exponentBits - 1) - 2 + f.fractionBits)

end Format

/-- What a pattern stands for. -/
inductive Value where
  | finite (n : Int)
  | infinite (negative : Bool)
  | nan
deriving DecidableEq, Repr

namespace Value

def ge : Value → Int → Bool
  | finite n, m => decide (m ≤ n)
  | infinite negative, _ => !negative
  | nan, _ => false

def le : Value → Int → Bool
  | finite n, m => decide (n ≤ m)
  | infinite negative, _ => negative
  | nan, _ => false

def lt : Value → Int → Bool
  | finite n, m => decide (n < m)
  | infinite negative, _ => negative
  | nan, _ => false

end Value

variable (f : Format)

/-- The magnitude of a pattern without the sign, below `infinity`. -/
def magnitude (low : Nat) : Nat :=
  let exponent := low / 2 ^ f.fractionBits
  let fraction := low % 2 ^ f.fractionBits
  if exponent = 0 then fraction else (2 ^ f.fractionBits + fraction) * 2 ^ (exponent - 1)

def value (x : Nat) : Value :=
  let low := x % f.signBit
  if low < f.infinity then
    .finite (if x < f.signBit then magnitude f low else -(magnitude f low : Int))
  else if low = f.infinity then .infinite (decide (f.signBit ≤ x))
  else .nan

/-- The multiple of `2 ^ k` nearest to `n`, divided by `2 ^ k`; of two, the even one. -/
def roundShift (k n : Nat) : Nat :=
  let q := n / 2 ^ k
  let r := n % 2 ^ k
  if 2 ^ k < 2 * r ∨ 2 * r = 2 ^ k ∧ q % 2 = 1 then q + 1 else q

/-- `n` rounded to `p` significant bits. -/
def roundTo (p : Nat) (n : Int) : Int :=
  let k := n.natAbs.log2 + 1 - p
  n.sign * (roundShift k n.natAbs * 2 ^ k : Nat)

/-- The pattern of the nearest number, without the sign. -/
def encodeMagnitude (n : Nat) : Nat :=
  let k := n.log2 - f.fractionBits
  min (k * 2 ^ f.fractionBits + roundShift k n) f.infinity

def encode (n : Int) : Nat :=
  if n < 0 then f.signBit + encodeMagnitude f n.natAbs else encodeMagnitude f n.natAbs

/-- A not-a-number that has been computed with. -/
def quiet (x : Nat) : Nat := x ||| 2 ^ (f.fractionBits - 1)

/-- The sum of two numbers of the format, in the format. -/
def add (x y : Nat) : Nat :=
  match value f x, value f y with
  | .nan, _ => quiet f x
  | _, .nan => quiet f y
  | .infinite _, .infinite _ => if x = y then x else quiet f f.infinity
  | .infinite _, _ => x
  | _, .infinite _ => y
  | .finite m, .finite n => if x = y ∧ m = 0 then x else encode f (m + n)

/-- A number of the format plus a constant, computed with `p` significant bits and then rounded
    back. -/
def addConst (p : Nat) (x : Nat) (c : Int) : Nat :=
  match value f x with
  | .nan => quiet f x
  | .infinite _ => x
  | .finite m => encode f (roundTo p (m + c))

variable {f}

/-! ## Patterns and magnitudes -/

theorem infinity_pos (f : Format) : 0 < f.infinity := by
  have h : 1 < 2 ^ f.exponentBits := Nat.one_lt_two_pow f.exponent_pos.ne'
  exact Nat.mul_pos (by omega) (Nat.two_pow_pos _)

theorem infinity_lt_signBit (f : Format) : f.infinity < f.signBit := by
  unfold Format.infinity Format.signBit
  rw [pow_add]
  exact Nat.mul_lt_mul_of_pos_right (Nat.sub_lt (Nat.two_pow_pos _) Nat.one_pos)
    (Nat.two_pow_pos _)

theorem magnitude_pos {low : Nat} (h : 0 < low) : 0 < magnitude f low := by
  unfold magnitude
  dsimp only
  split
  · rename_i hzero
    have hdiv := Nat.div_add_mod low (2 ^ f.fractionBits)
    rw [hzero] at hdiv
    omega
  · exact Nat.mul_pos (Nat.add_pos_left (Nat.two_pow_pos _) _) (Nat.two_pow_pos _)

theorem roundShift_zero (n : Nat) : roundShift 0 n = n := by
  unfold roundShift
  simp [Nat.mod_one]

/-- Nothing is rounded off a multiple. -/
theorem roundShift_mul (k m : Nat) : roundShift k (m * 2 ^ k) = m := by
  have hpos : 0 < 2 ^ k := Nat.two_pow_pos k
  unfold roundShift
  dsimp only
  rw [Nat.mul_mod_left, Nat.mul_div_cancel _ hpos, if_neg]
  omega

/-- A magnitude with its leading bit at place `k + fractionBits`. -/
theorem log2_scaled {fraction : Nat} (h : fraction < 2 ^ f.fractionBits) (k : Nat) :
    ((2 ^ f.fractionBits + fraction) * 2 ^ k).log2 = k + f.fractionBits := by
  have hpos : (2 ^ f.fractionBits + fraction) * 2 ^ k ≠ 0 :=
    (Nat.mul_pos (Nat.add_pos_left (Nat.two_pow_pos _) _) (Nat.two_pow_pos _)).ne'
  refine (Nat.log2_eq_iff hpos).mpr ⟨?_, ?_⟩
  · rw [Nat.add_comm, pow_add]
    exact Nat.mul_le_mul_right _ (Nat.le_add_right _ _)
  · have htop : 2 ^ (k + f.fractionBits + 1) = (2 ^ f.fractionBits * 2) * 2 ^ k := by
      rw [Nat.add_assoc, Nat.add_comm, pow_add, pow_succ]
    rw [htop]
    exact Nat.mul_lt_mul_of_pos_right (by omega) (Nat.two_pow_pos _)

theorem encodeMagnitude_magnitude {low : Nat} (h : low < f.infinity) :
    encodeMagnitude f (magnitude f low) = low := by
  have hfraction : low % 2 ^ f.fractionBits < 2 ^ f.fractionBits := Nat.mod_lt _ (Nat.two_pow_pos _)
  have hdiv := Nat.div_add_mod low (2 ^ f.fractionBits)
  have hpattern : ∀ k n, k = n.log2 - f.fractionBits →
      k * 2 ^ f.fractionBits + roundShift k n = low → encodeMagnitude f n = low := by
    intro k n hk hsum
    unfold encodeMagnitude
    dsimp only
    rw [← hk, hsum, Nat.min_eq_left h.le]
  unfold magnitude
  dsimp only
  split
  · -- a number without a leading bit
    rename_i hzero
    rw [hzero, Nat.mul_zero, Nat.zero_add] at hdiv
    refine hpattern 0 _ ?_ ?_
    · by_cases hlow : low % 2 ^ f.fractionBits = 0
      · rw [hlow, Nat.log2_zero, Nat.zero_sub]
      · exact (Nat.sub_eq_zero_of_le ((Nat.log2_lt hlow).mpr hfraction).le).symm
    · rw [roundShift_zero, Nat.zero_mul, Nat.zero_add, hdiv]
  · rename_i hexponent
    refine hpattern (low / 2 ^ f.fractionBits - 1) _ ?_ ?_
    · rw [log2_scaled hfraction, Nat.add_sub_cancel]
    · obtain ⟨e, he⟩ := Nat.exists_eq_succ_of_ne_zero hexponent
      rw [roundShift_mul, he, Nat.succ_sub_one]
      rw [he, Nat.mul_succ, Nat.mul_comm] at hdiv
      omega

theorem encodeMagnitude_pos {n : Nat} (h : 0 < n) : 0 < encodeMagnitude f n := by
  unfold encodeMagnitude
  dsimp only
  refine lt_min ?_ (infinity_pos f)
  by_cases hk : n.log2 - f.fractionBits = 0
  · rw [hk, roundShift_zero]
    omega
  · exact Nat.add_pos_left (Nat.mul_pos (Nat.pos_of_ne_zero hk) (Nat.two_pow_pos _)) _

/-! ## Encoding and decoding -/

theorem value_finite {x : Nat} {n : Int} (h : value f x = .finite n) :
    x % f.signBit < f.infinity ∧
      n = if x < f.signBit then (magnitude f (x % f.signBit) : Int)
        else -(magnitude f (x % f.signBit) : Int) := by
  unfold value at h
  dsimp only at h
  split at h
  · rename_i hlow
    exact ⟨hlow, (Value.finite.inj h).symm⟩
  · split at h <;> exact nomatch h

/-- A finite number other than negative zero has one pattern. -/
theorem encode_value {x : Nat} {n : Int} (hx : x < 2 * f.signBit) (hzero : x ≠ f.signBit)
    (h : value f x = .finite n) : encode f n = x := by
  obtain ⟨hlow, hn⟩ := value_finite h
  unfold encode
  by_cases hsign : x < f.signBit
  · rw [if_pos hsign, Nat.mod_eq_of_lt hsign] at hn
    rw [Nat.mod_eq_of_lt hsign] at hlow
    rw [hn, if_neg (by omega), Int.natAbs_natCast, encodeMagnitude_magnitude hlow]
  · have hmod : x % f.signBit = x - f.signBit := by
      rw [Nat.mod_eq_sub_mod (by omega), Nat.mod_eq_of_lt (by omega)]
    rw [hmod] at hlow hn
    have hpos : 0 < magnitude f (x - f.signBit) := magnitude_pos (by omega)
    rw [if_neg hsign] at hn
    rw [hn, if_pos (by omega), Int.natAbs_neg, Int.natAbs_natCast,
      encodeMagnitude_magnitude hlow]
    omega

theorem value_zero (f : Format) : value f 0 = .finite 0 := by
  have hpos : 0 < f.signBit := Nat.two_pow_pos _
  unfold value magnitude
  simp [infinity_pos f, hpos]

theorem value_signBit (f : Format) : value f f.signBit = .finite 0 := by
  unfold value magnitude
  simp [infinity_pos f]

theorem encode_ne_signBit (n : Int) : encode f n ≠ f.signBit := by
  unfold encode
  split
  · have hpos : 0 < encodeMagnitude f n.natAbs := encodeMagnitude_pos (by omega)
    omega
  · have hle : encodeMagnitude f n.natAbs ≤ f.infinity := Nat.min_le_right _ _
    have hlt := infinity_lt_signBit f
    omega

theorem quiet_ne_signBit (x : Nat) : quiet f x ≠ f.signBit := by
  have hpos := f.fraction_pos
  intro h
  have hbit := congrArg (Nat.testBit · (f.fractionBits - 1)) h
  unfold quiet Format.signBit at hbit
  simp only [Nat.testBit_or, Nat.testBit_two_pow_self, Bool.or_true, Nat.testBit_two_pow] at hbit
  have hplace := of_decide_eq_true hbit.symm
  omega

/-! ## Sums -/

theorem encode_lt (n : Int) : encode f n < 2 * f.signBit := by
  have hle : encodeMagnitude f n.natAbs ≤ f.infinity := Nat.min_le_right _ _
  have hlt := infinity_lt_signBit f
  unfold encode
  split <;> omega

theorem quiet_lt {x : Nat} (hx : x < 2 * f.signBit) : quiet f x < 2 * f.signBit := by
  unfold Format.signBit at hx ⊢
  rw [← pow_succ'] at hx ⊢
  exact Nat.or_lt_two_pow hx (Nat.pow_lt_pow_right (by decide) (by omega))

/-- A sum of patterns is a pattern. -/
theorem add_lt {x y : Nat} (hx : x < 2 * f.signBit) (hy : y < 2 * f.signBit) :
    add f x y < 2 * f.signBit := by
  have hinf := infinity_lt_signBit f
  unfold add
  split
  · exact quiet_lt hx
  · exact quiet_lt hy
  · split
    · exact hx
    · exact quiet_lt (by omega)
  · exact hx
  · exact hy
  · split
    · exact hx
    · exact encode_lt _

theorem add_zero_left {y : Nat} {n : Int} (hy : y < 2 * f.signBit) (hzero : y ≠ f.signBit)
    (h : value f y = .finite n) : add f 0 y = y := by
  unfold add
  rw [value_zero, h]
  dsimp only
  split
  · rename_i hboth
    exact hboth.1
  · rw [zero_add, encode_value hy hzero h]

theorem add_zero_ne_signBit (y : Nat) : add f 0 y ≠ f.signBit := by
  have hpos : 0 < f.signBit := Nat.two_pow_pos _
  unfold add
  rw [value_zero]
  cases hy : value f y with
  | nan => exact quiet_ne_signBit y
  | infinite negative =>
    intro h
    subst h
    rw [value_signBit] at hy
    exact nomatch hy
  | finite n =>
    dsimp only
    split
    · exact hpos.ne
    · exact encode_ne_signBit _

end BinaryFloat
