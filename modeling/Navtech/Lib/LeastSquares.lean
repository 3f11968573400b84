/-
  Least squares over a finite set of points, in an ordered field.

  A linear combination of given functions is fitted to given values. The sum of the squared
  errors is least exactly where the errors are orthogonal to each of the functions
  (`normal_iff_least`): these are the normal equations. A combination that takes all the values
  solves them (`normal_of_exact`). So does the same combination, written with other functions
  that are combinations of the first ones (`Normal.of_span`). For the values zero the equations
  have only solutions that are zero at all points (`combine_eq_zero_of_normal`).
-/
import Mathlib.Algebra.BigOperators.Ring.Finset
import Mathlib.Algebra.Order.BigOperators.Ring.Finset
import Mathlib.Algebra.Order.Field.Basic
import Mathlib.Tactic.Linarith
import Mathlib.Tactic.Positivity
import Mathlib.Tactic.Ring

namespace LeastSquares

variable {ι κ K : Type*} [Fintype κ] [Field K]

/-- The combination with the coefficients `b`, at a point. -/
def combine (φ : κ → ι → K) (b : κ → K) (i : ι) : K := ∑ k, b k * φ k i

def error (φ : κ → ι → K) (y : ι → K) (b : κ → K) (i : ι) : K := y i - combine φ b i

def residual (s : Finset ι) (φ : κ → ι → K) (y : ι → K) (b : κ → K) : K :=
  ∑ i ∈ s, error φ y b i ^ 2

/-- The normal equations. -/
def Normal (s : Finset ι) (φ : κ → ι → K) (y : ι → K) (b : κ → K) : Prop :=
  ∀ k, ∑ i ∈ s, φ k i * error φ y b i = 0

variable {s : Finset ι} {φ : κ → ι → K} {y : ι → K} {b : κ → K}

theorem normal_of_exact (h : ∀ i ∈ s, y i = combine φ b i) : Normal s φ y b := by
  intro k
  refine Finset.sum_eq_zero fun i hi => ?_
  rw [error, h i hi, sub_self, mul_zero]

theorem combine_add (b d : κ → K) (i : ι) :
    combine φ (b + d) i = combine φ b i + combine φ d i := by
  simp only [combine, Pi.add_apply, add_mul, Finset.sum_add_distrib]

/-- The errors are orthogonal to all combinations. -/
theorem Normal.combine (h : Normal s φ y b) (d : κ → K) :
    ∑ i ∈ s, LeastSquares.combine φ d i * error φ y b i = 0 := by
  simp only [LeastSquares.combine, Finset.sum_mul, mul_assoc]
  rw [Finset.sum_comm]
  refine Finset.sum_eq_zero fun k _ => ?_
  rw [← Finset.mul_sum, h k, mul_zero]

theorem Normal.of_span {κ' : Type*} [Fintype κ'] {φ' : κ' → ι → K} {b' : κ' → K}
    (h : Normal s φ y b) (hsame : ∀ i ∈ s, LeastSquares.combine φ' b' i = LeastSquares.combine φ b i)
    (hspan : ∀ k, ∃ d, ∀ i ∈ s, φ' k i = LeastSquares.combine φ d i) : Normal s φ' y b' := by
  intro k
  obtain ⟨d, hd⟩ := hspan k
  rw [← h.combine d]
  refine Finset.sum_congr rfl fun i hi => ?_
  rw [hd i hi, error, error, hsame i hi]

/-- The errors of two combinations, by the first one and the difference. -/
theorem residual_add (s : Finset ι) (φ : κ → ι → K) (y : ι → K) (b d : κ → K) :
    residual s φ y (b + d) = residual s φ y b -
      2 * ∑ k, d k * ∑ i ∈ s, φ k i * error φ y b i + ∑ i ∈ s, combine φ d i ^ 2 := by
  have hcross : ∑ k, d k * ∑ i ∈ s, φ k i * error φ y b i =
      ∑ i ∈ s, combine φ d i * error φ y b i := by
    simp only [combine, Finset.mul_sum, Finset.sum_mul]
    rw [Finset.sum_comm]
    exact Finset.sum_congr rfl fun i _ => Finset.sum_congr rfl fun k _ => (mul_assoc _ _ _).symm
  have herror (i : ι) : error φ y (b + d) i ^ 2 = error φ y b i ^ 2 -
      2 * (combine φ d i * error φ y b i) + combine φ d i ^ 2 := by
    rw [error, combine_add, error]
    ring
  rw [hcross, residual, residual, Finset.sum_congr rfl fun i _ => herror i,
    Finset.sum_add_distrib, Finset.sum_sub_distrib, Finset.mul_sum]

variable [LinearOrder K] [IsStrictOrderedRing K]

theorem combine_eq_zero_of_normal (h : Normal s φ 0 b) : ∀ i ∈ s, combine φ b i = 0 := by
  have hsum : ∑ i ∈ s, combine φ b i ^ 2 = 0 := by
    rw [← neg_eq_zero, ← h.combine b, ← Finset.sum_neg_distrib]
    refine Finset.sum_congr rfl fun i _ => ?_
    rw [error, Pi.zero_apply]
    ring
  intro i hi
  have hall := (Finset.sum_eq_zero_iff_of_nonneg fun i _ => sq_nonneg (combine φ b i)).mp hsum
  exact pow_eq_zero_iff two_ne_zero |>.mp (hall i hi)

/-- No combination has a smaller residual. -/
def Least (s : Finset ι) (φ : κ → ι → K) (y : ι → K) (b : κ → K) : Prop :=
  ∀ b', residual s φ y b ≤ residual s φ y b'

theorem least_of_normal (h : Normal s φ y b) : Least s φ y b := by
  intro b'
  have hdiff := residual_add s φ y b (b' - b)
  have hzero : ∑ k, (b' - b) k * ∑ i ∈ s, φ k i * error φ y b i = 0 :=
    Finset.sum_eq_zero fun k _ => by rw [h k, mul_zero]
  have hsquares : 0 ≤ ∑ i ∈ s, combine φ (b' - b) i ^ 2 :=
    Finset.sum_nonneg fun i _ => sq_nonneg _
  rw [add_sub_cancel, hzero] at hdiff
  linarith

/-- Where an equation fails, a step along its function makes the residual smaller. -/
theorem normal_of_least (h : Least s φ y b) : Normal s φ y b := by
  classical
  intro k
  set n := ∑ i ∈ s, φ k i * error φ y b i with hn
  set q := ∑ i ∈ s, φ k i ^ 2 with hq
  have hpos : 0 ≤ q := Finset.sum_nonneg fun i _ => sq_nonneg _
  -- the step that would be the best one if the squares summed to one more
  set t := n / (q + 1) with ht
  have hnt : n = t * (q + 1) := (div_mul_cancel₀ n (by positivity)).symm
  have hsingle (g : κ → K) : ∑ l, (Pi.single k t : κ → K) l * g l = t * g k := by
    rw [Finset.sum_eq_single k (fun l _ hl => by rw [Pi.single_eq_of_ne hl, zero_mul])
      (fun habsent => absurd (Finset.mem_univ k) habsent), Pi.single_eq_same]
  have hstep := residual_add s φ y b (Pi.single k t)
  have hsquares : ∑ i ∈ s, combine φ (Pi.single k t) i ^ 2 = t ^ 2 * q := by
    rw [hq, Finset.mul_sum]
    exact Finset.sum_congr rfl fun i _ => by rw [combine, hsingle, mul_pow]
  rw [hsingle, hsquares, ← hn, hnt] at hstep
  have hle := h (b + Pi.single k t)
  have hfall : t ^ 2 * (q + 2) ≤ 0 := by linarith
  have hzero : t = 0 := by
    by_contra hne
    exact absurd hfall (not_le.mpr (mul_pos (sq_pos_of_ne_zero hne) (by linarith)))
  rw [hnt, hzero, zero_mul]

/-- **The normal equations** hold exactly where the residual is least. -/
theorem normal_iff_least : Normal s φ y b ↔ Least s φ y b := ⟨least_of_normal, normal_of_least⟩

end LeastSquares
