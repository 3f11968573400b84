/-
  What `peak_resolve` computes: the vertex of the least-squares parabola of the window.

  The rows that the sums are put into are the normal equations of the fit (`hold_normalRows`).
  The elimination keeps their solutions (`hold_eliminate`) and leaves them in echelon form, with
  divisors that are not zero, so there is one solution and its slope and curvature are the ones
  computed (`normalEquations_iff`). The last division is the only one that may be by zero, and is not
  where the parabola is one; its vertex is then the result (`peakResolve_eq_vertex`).
-/
import Mathlib.Algebra.BigOperators.Fin
import Mathlib.Algebra.BigOperators.Intervals
import Mathlib.Tactic.FieldSimp
import Mathlib.Tactic.FinCases
import Navtech.Lib.LeastSquares
import Navtech.Navigation.PeakResolve

namespace Navtech

namespace PeakFinder

open LeastSquares

/-! ## The equations of the rows -/

/-- The row as an equation between the coefficients. -/
def Row.Holds (r : Row) (b : Fin 3 → ℚ) : Prop := r.c0 * b 0 + r.c1 * b 1 + r.c2 * b 2 = r.c3

theorem Row.holds_subtract {row other : Row} {b : Fin 3 → ℚ} (F : ℚ) (h : other.Holds b) :
    (row.subtract F other).Holds b ↔ row.Holds b := by
  unfold Row.Holds at h
  unfold Row.Holds Row.subtract
  dsimp only
  have hscaled : F * other.c0 * b 0 + F * other.c1 * b 1 + F * other.c2 * b 2 = F * other.c3 := by
    rw [← h]
    ring
  constructor <;> intro hrow <;> linarith

namespace Rows

structure Hold (r : Rows) (b : Fin 3 → ℚ) : Prop where
  A : r.A.Holds b
  B : r.B.Holds b
  C : r.C.Holds b

variable {r : Rows} {b : Fin 3 → ℚ}

theorem c0_eliminate_B (hA : r.A.c0 ≠ 0) : r.eliminate.B.c0 = 0 := by
  change r.B.c0 - r.B.c0 / r.A.c0 * r.A.c0 = 0
  rw [div_mul_cancel₀ _ hA, sub_self]

theorem c0_eliminate_C (hA : r.A.c0 ≠ 0) : r.eliminate.C.c0 = 0 := by
  change r.C.c0 - r.C.c0 / r.A.c0 * r.A.c0 = 0
  rw [div_mul_cancel₀ _ hA, sub_self]

theorem c1_eliminate_C (hB : r.eliminate.B.c1 ≠ 0) : r.eliminate.C.c1 = 0 := by
  change _ - _ / r.eliminate.B.c1 * r.eliminate.B.c1 = 0
  rw [div_mul_cancel₀ _ hB]
  exact sub_self _

/-- The place of `C` that the last loop leaves alone is zero already. -/
theorem eliminate_C (hA : r.A.c0 ≠ 0) :
    r.eliminate.C = (r.C.subtract (r.C.c0 / r.A.c0) r.A).subtract
      ((r.C.subtract (r.C.c0 / r.A.c0) r.A).c1 / r.eliminate.B.c1) r.eliminate.B := by
  have hB := c0_eliminate_B hA
  have hkept : ∀ F, (r.C.subtract (r.C.c0 / r.A.c0) r.A).c0 =
      ((r.C.subtract (r.C.c0 / r.A.c0) r.A).subtract F r.eliminate.B).c0 := by
    intro F
    change _ = _ - F * r.eliminate.B.c0
    rw [hB, mul_zero, sub_zero]
  unfold eliminate
  dsimp only
  rw [hkept]
  rfl

/-- The elimination keeps the solutions. -/
theorem hold_eliminate (hA : r.A.c0 ≠ 0) : r.eliminate.Hold b ↔ r.Hold b := by
  have hB (h : r.A.Holds b) : r.eliminate.B.Holds b ↔ r.B.Holds b := Row.holds_subtract _ h
  have hC (h : r.A.Holds b) (h' : r.eliminate.B.Holds b) :
      r.eliminate.C.Holds b ↔ r.C.Holds b := by
    rw [eliminate_C hA, Row.holds_subtract _ h', Row.holds_subtract _ h]
  constructor
  · intro h
    exact ⟨h.A, (hB h.A).mp h.B, (hC h.A h.B).mp h.C⟩
  · intro h
    have hB' := (hB h.A).mpr h.B
    exact ⟨h.A, hB', (hC h.A hB').mpr h.C⟩

/-- The solution, from the last row to the first. -/
def solution (r : Rows) : Fin 3 → ℚ :=
  let b2 := r.eliminate.C.c3 / r.eliminate.C.c2
  let b1 := (r.eliminate.B.c3 - r.eliminate.B.c2 * b2) / r.eliminate.B.c1
  ![(r.A.c3 - r.A.c1 * b1 - r.A.c2 * b2) / r.A.c0, b1, b2]

theorem hold_iff (hA : r.A.c0 ≠ 0) (hB : r.eliminate.B.c1 ≠ 0) (hC : r.eliminate.C.c2 ≠ 0) :
    r.Hold b ↔ b = r.solution := by
  have hdiv {x y c : ℚ} (hc : c ≠ 0) : c * x = y ↔ x = y / c := by
    rw [eq_div_iff hc, mul_comm]
  have hthird : r.eliminate.C.Holds b ↔ b 2 = r.solution 2 := by
    unfold Row.Holds
    rw [c0_eliminate_C hA, c1_eliminate_C hB, zero_mul, zero_mul, zero_add, zero_add]
    exact hdiv hC
  have hsecond (h : b 2 = r.solution 2) : r.eliminate.B.Holds b ↔ b 1 = r.solution 1 := by
    unfold Row.Holds
    rw [c0_eliminate_B hA, zero_mul, zero_add, h, ← eq_sub_iff_add_eq]
    exact hdiv hB
  have hfirst (h : b 2 = r.solution 2) (h' : b 1 = r.solution 1) :
      r.eliminate.A.Holds b ↔ b 0 = r.solution 0 := by
    unfold Row.Holds
    rw [h, h', ← eq_sub_iff_add_eq, ← eq_sub_iff_add_eq, sub_right_comm]
    exact hdiv hA
  rw [← hold_eliminate hA]
  constructor
  · intro h
    have h2 := hthird.mp h.C
    have h1 := (hsecond h2).mp h.B
    have h0 := (hfirst h2 h1).mp h.A
    funext k
    match k with
    | 0 => exact h0
    | 1 => exact h1
    | 2 => exact h2
  · rintro rfl
    exact ⟨(hfirst rfl rfl).mpr rfl, (hsecond rfl).mpr rfl, hthird.mpr rfl⟩

end Rows

/-! ## The equations of the window -/

/-- The bins of the window. -/
def windowBins (w p : Nat) : Finset Nat := Finset.Ico (p - binsToOffset w) (p - binsToOffset w + w)

/-- The powers of the distance from the peak. -/
def powers (p : Nat) (k : Fin 3) (q : Nat) : ℚ := ((q : ℚ) - p) ^ (k : Nat)

theorem combine_powers (p : Nat) (b : Fin 3 → ℚ) (q : Nat) :
    combine (powers p) b q = b 0 + b 1 * (q - p) + b 2 * (q - p) ^ 2 := by
  rw [combine, Fin.sum_univ_three, powers, powers, powers]
  simp only [Fin.val_zero, Fin.val_one, Fin.val_two, pow_zero, pow_one, mul_one]

/-- The coefficients in the numbers of the bins of a parabola in their distances from `p`. -/
def absolute (p : Nat) (b : Fin 3 → ℚ) : Fin 3 → ℚ :=
  ![b 0 - b 1 * p + b 2 * p ^ 2, b 1 - 2 * b 2 * p, b 2]

/-- The coefficients `b` solve the normal equations of the samples `f` in the window. -/
def NormalEquations (w p : Nat) (f : Nat → ℚ) (b : Fin 3 → ℚ) : Prop :=
  Normal (windowBins w p) (powers p) f b

/-- The bins of the window, by their distances from `o`. -/
def places (w p : Nat) (o : ℚ) : List ℚ :=
  (List.range w).map fun i => ((p - binsToOffset w + i : Nat) : ℚ) - o

/-- The samples of the window. -/
def windowSamples (w p : Nat) (f : Nat → ℚ) : List ℚ := (List.range' (p - binsToOffset w) w).map f

section Sums

variable {w p : Nat}

/-- A sum over the window, by the places in it. -/
theorem sum_windowBins (g : Nat → ℚ) :
    ∑ q ∈ windowBins w p, g q = ((List.range w).map fun i => g (p - binsToOffset w + i)).sum := by
  unfold windowBins
  rw [Finset.sum_Ico_eq_sum_range, Nat.add_sub_cancel_left]
  rfl

/-- The places of the window, in a sum. -/
theorem sum_places (o : ℚ) (g : ℚ → ℚ) :
    ((places w p o).map g).sum = ∑ q ∈ windowBins w p, g ((q : ℚ) - o) := by
  rw [sum_windowBins, places, List.map_map]
  rfl

/-- The samples of the window, in a sum with weights. -/
theorem sum_multiply (o : ℚ) (g : ℚ → ℚ) (f : Nat → ℚ) :
    (vectorMultiply ((places w p o).map g) (windowSamples w p f)).sum =
      ∑ q ∈ windowBins w p, g ((q : ℚ) - o) * f q := by
  unfold vectorMultiply
  rw [sum_windowBins, places, windowSamples, List.range'_eq_map_range, List.map_map, List.map_map,
    List.zipWith_map, List.zipWith_self]
  rfl

/-- The sum of the `k`-th powers of the distances from `o`. -/
def moment (w p : Nat) (o : ℚ) (k : Nat) : ℚ := ∑ q ∈ windowBins w p, ((q : ℚ) - o) ^ k

/-- The same with the samples for weights. -/
def sampleMoment (w p : Nat) (o : ℚ) (f : Nat → ℚ) (k : Nat) : ℚ :=
  ∑ q ∈ windowBins w p, ((q : ℚ) - o) ^ k * f q

theorem fitRows_eq (o : ℚ) (f : Nat → ℚ) :
    fitRows w (places w p o) (windowSamples w p f) =
      ⟨⟨moment w p o 2, moment w p o 3, moment w p o 4, sampleMoment w p o f 2⟩,
        ⟨moment w p o 1, moment w p o 2, moment w p o 3, sampleMoment w p o f 1⟩,
        ⟨moment w p o 0, moment w p o 1, moment w p o 2, sampleMoment w p o f 0⟩⟩ := by
  have hmoment (k : Nat) : ((places w p o).map (· ^ k)).sum = moment w p o k :=
    sum_places o (· ^ k)
  have hsamples (k : Nat) : (vectorMultiply ((places w p o).map (· ^ k))
      (windowSamples w p f)).sum = sampleMoment w p o f k := sum_multiply o (· ^ k) f
  have hid : (places w p o).map (· ^ 1) = places w p o := by simp
  have hsquare : vectorSquare (places w p o) = (places w p o).map (· ^ 2) :=
    List.map_congr_left fun v _ => (sq v).symm
  have hcube : vectorCube (places w p o) = (places w p o).map (· ^ 3) :=
    List.map_congr_left fun v _ => (pow_three' v).symm
  have hfourth : vectorMultiply ((places w p o).map (· ^ 2)) ((places w p o).map (· ^ 2)) =
      (places w p o).map (· ^ 4) := by
    unfold vectorMultiply
    rw [List.zipWith_map, List.zipWith_self]
    exact List.map_congr_left fun v _ => (pow_add v 2 2).symm
  have hzero : (w : ℚ) = moment w p o 0 := by
    rw [← hmoment 0, places, List.map_map]
    simp [Function.comp_def]
  have hone : (windowSamples w p f).sum = sampleMoment w p o f 0 := by
    unfold sampleMoment
    rw [sum_windowBins, windowSamples, List.range'_eq_map_range, List.map_map]
    refine congrArg List.sum (List.map_congr_left fun i _ => ?_)
    rw [pow_zero, one_mul]
    rfl
  unfold fitRows
  dsimp only [scalarSum]
  rw [show scalarSquare (places w p o) = ((places w p o).map (· ^ 2)).sum from congrArg _ hsquare,
    hsquare, hcube, hfourth, hone, hsamples 2, hmoment, hmoment, hmoment, ← hzero]
  conv => lhs; rw [← hid]
  rw [hsamples 1, hmoment]

/-- The rows that the sums are put into are the normal equations. -/
theorem hold_fitRows {o : ℚ} {f : Nat → ℚ} {b : Fin 3 → ℚ} :
    (fitRows w (places w p o) (windowSamples w p f)).Hold b ↔
      Normal (windowBins w p) (fun (k : Fin 3) (q : Nat) => ((q : ℚ) - o) ^ (k : Nat)) f b := by
  have hequation (k : Fin 3) : ∑ q ∈ windowBins w p, ((q : ℚ) - o) ^ (k : Nat) *
      error (fun (k : Fin 3) (q : Nat) => ((q : ℚ) - o) ^ (k : Nat)) f b q =
        sampleMoment w p o f k - (moment w p o k * b 0 + moment w p o (k + 1) * b 1 +
          moment w p o (k + 2) * b 2) := by
    unfold moment sampleMoment
    simp only [Finset.sum_mul, ← Finset.sum_add_distrib, ← Finset.sum_sub_distrib]
    refine Finset.sum_congr rfl fun q _ => ?_
    simp only [error, combine, Fin.sum_univ_three]
    rw [Fin.val_zero, Fin.val_one, Fin.val_two]
    ring
  rw [fitRows_eq]
  constructor
  · intro h k
    rw [hequation, sub_eq_zero]
    fin_cases k
    · exact h.C.symm
    · exact h.B.symm
    · exact h.A.symm
  · intro h
    have hrow (k : Fin 3) := (sub_eq_zero.mp ((hequation k).symm.trans (h k))).symm
    exact ⟨hrow 2, hrow 1, hrow 0⟩

/-- `peak_resolve` puts its sums into the rows about the peak. -/
theorem normalRows_eq (hp : binsToOffset w ≤ p) (y : List ℚ) :
    normalRows w y = fitRows w (places w p p) y := by
  have hplaces : offsets w = places w p p := by
    unfold offsets places
    rw [bind_pure_comp, List.map_eq_map, List.map_map]
    refine List.map_congr_left fun i _ => ?_
    rw [Nat.cast_add, Nat.cast_sub hp]
    rw [Function.comp_apply]
    ring
  rw [← hplaces]
  rfl

theorem hold_normalRows (hp : binsToOffset w ≤ p) {f : Nat → ℚ} {b : Fin 3 → ℚ} :
    (normalRows w ((List.range' (p - binsToOffset w) w).map f)).Hold b ↔
      NormalEquations w p f b := by
  rw [normalRows_eq hp]
  exact hold_fitRows

end Sums

/-! ## The vertex -/

variable {w p : Nat}

/-- One parabola fits best, and the slope and the curvature are its own. -/
theorem normalEquations_iff (hlo : 5 ≤ w) (hhi : w ≤ 15) (hp : binsToOffset w ≤ p) {f : Nat → ℚ}
    {b : Fin 3 → ℚ} :
    NormalEquations w p f b ↔
      b = (normalRows w ((List.range' (p - binsToOffset w) w).map f)).solution := by
  have hdivisors := divisors_ne_zero_of_width hlo hhi
    ((List.range' (p - binsToOffset w) w).map f)
  rw [← hold_normalRows hp]
  exact Rows.hold_iff (hdivisors _ (by simp [divisors])) (hdivisors _ (by simp [divisors]))
    (hdivisors _ (by simp [divisors]))

theorem peakResolve_of_fit {y : List ℚ} (h : (fit w y).b2 ≠ 0) :
    peakResolve w p y = .finite (p - (fit w y).b1 / (2 * (fit w y).b2)) := by
  unfold peakResolve
  dsimp only
  rw [ExtRat.div_of_ne (mul_ne_zero two_ne_zero h)]
  refine congrArg ExtRat.finite ?_
  ring

/-- **The vertex of the least-squares parabola**: for samples `f` of a sweep that the window
    around `p` lies inside of. -/
theorem peakResolve_eq_vertex {n : Nat} (f : Nat → ℚ) (hlo : 5 ≤ w) (hhi : w ≤ 15)
    (hp : binsToOffset w ≤ p) (hinside : p - binsToOffset w + w ≤ n) :
    ∃ y, samples (sweep f n) w ((p : Int) - binsToOffset w) = .ok y ∧
      (∀ d ∈ divisors w y, d ≠ 0) ∧
      ∃ b : Fin 3 → ℚ, NormalEquations w p f b ∧
        (∀ b', Least (windowBins w p) (powers p) f b' ↔ b' = b) ∧
        (b 2 ≠ 0 → 2 * (fit w y).b2 ≠ 0 ∧ peakResolve w p y = .finite (p - b 1 / (2 * b 2))) ∧
        ∀ a v h : ℚ, a ≠ 0 → (∀ q ∈ windowBins w p, f q = a * (q - v) ^ 2 + h) →
          peakResolve w p y = .finite v := by
  set y := (List.range' (p - binsToOffset w) w).map f with hy
  have hsamples : samples (sweep f n) w ((p : Int) - binsToOffset w) = .ok y := by
    rw [← Nat.cast_sub hp]
    exact samples_sweep f hinside
  have hnormal {b : Fin 3 → ℚ} : NormalEquations w p f b ↔ b = (normalRows w y).solution :=
    normalEquations_iff hlo hhi hp
  have hvertex {b : Fin 3 → ℚ} (hb : NormalEquations w p f b) (hne : b 2 ≠ 0) :
      2 * (fit w y).b2 ≠ 0 ∧ peakResolve w p y = .finite (p - b 1 / (2 * b 2)) := by
    rw [hnormal] at hb
    subst hb
    exact ⟨mul_ne_zero two_ne_zero hne, peakResolve_of_fit hne⟩
  refine ⟨y, hsamples, divisors_ne_zero_of_width hlo hhi y, _, hnormal.mpr rfl, ?_,
    hvertex (hnormal.mpr rfl), ?_⟩
  · intro b'
    exact normal_iff_least.symm.trans hnormal
  · intro a v h ha hparabola
    -- the coefficients of the parabola at the peak
    have hexact : NormalEquations w p f ![a * (p - v) ^ 2 + h, 2 * a * (p - v), a] := by
      refine normal_of_exact fun q hq => ?_
      rw [hparabola q hq, combine_powers]
      simp only [Matrix.cons_val]
      ring
    have hresult := (hvertex hexact ha).2
    rw [hresult]
    refine congrArg ExtRat.finite ?_
    simp only [Matrix.cons_val]
    field_simp
    ring

/-- A symmetric peak of five bins, whose middle is the third. -/
theorem peakResolve_symmetric :
    ∃ y, samples (sweep (fun q => 9 - ((q : ℚ) - 2) ^ 2) 5) 5 ((2 : Nat) - binsToOffset 5) = .ok y ∧
      peakResolve 5 2 y = .finite 2 := by
  obtain ⟨y, hy, -, -, -, -, -, hexact⟩ := peakResolve_eq_vertex (w := 5) (p := 2) (n := 5)
    (fun q => 9 - ((q : ℚ) - 2) ^ 2) (by decide) (by decide) (by decide) (by decide)
  exact ⟨y, hy, hexact (-1) 2 9 (by decide) fun q _ => by ring⟩

end PeakFinder

end Navtech
