/-
  `peak_resolve` of `pythonexamples/NavigationModePeakDetectionFromOneFFTofRawData.py`, in exact
  numbers, beside that of `cpp_17/navigation/peak_finder.cpp`.

  The script fits its parabola in the numbers of the bins, the C++ code in their distances from
  the peak, to which the peak is added in the end. The parabola that fits best is the same, and
  so is its vertex (`peakResolve_eq`).

  The script's divisors depend on where the window is. For no window is one of them zero. Were
  the last one zero, some parabola with the curvature one would solve the equations of samples
  that are all zero, and would be zero at all bins of the window (`curvature_divisor_ne_zero`).
  The second is a difference of sums that are weighted by the bins, which are not negative
  (`slope_divisor_ne_zero`).
-/
import Navtech.Navigation.PeakVertex

namespace Navtech

namespace Python

namespace PeakPosition

open CheckedView (bind_eq_ok)
open LeastSquares
open PeakFinder (Rows binsToOffset divisors fit fitRows moment places sampleMoment sweep
  windowBins windowSamples)

inductive Exception where
  | indexError
  | zeroDivisionError
deriving DecidableEq, Repr

/-- `data[i]`. A negative index counts from the end. -/
def item {α : Type} (data : List α) (i : Int) : Except Exception α :=
  let i := if i < 0 then i + data.length else i
  if i < 0 then .error .indexError
  else
    match data[i.toNat]? with
    | none => .error .indexError
    | some v => .ok v

/-- `n` items from `i` on, in the order of a loop. -/
def items {α : Type} (data : List α) : Nat → Int → Except Exception (List α)
  | 0, _ => .ok []
  | n + 1, i => do
    let v ← item data i
    let vs ← items data n (i + 1)
    return v :: vs

/-- `p / q`. -/
def divide (p q : ℚ) : Except Exception ℚ :=
  if q = 0 then .error .zeroDivisionError else .ok (p / q)

/-- The list `x`: the numbers of the bins of the window. -/
def windowX (peakBin binsToOperateUpon : Nat) : List ℚ :=
  (List.range binsToOperateUpon).map fun (index : Nat) =>
    ((peakBin : ℚ) - binsToOffset binsToOperateUpon) + index

/-- The elimination in `A`, `B` and `C`, and the vertex. -/
def solve (r : Rows) : Except Exception ℚ := do
  let F ← divide r.C.c0 r.A.c0
  let C := r.C.subtract F r.A
  let F ← divide r.B.c0 r.A.c0
  let B := r.B.subtract F r.A
  let F ← divide C.c1 B.c1
  let C := C.subtract F B
  let b2 ← divide C.c3 C.c2
  let b1 ← divide (B.c3 - B.c2 * b2) B.c1
  divide (-b1) (2 * b2)

def peakResolve (data : List ℚ) (peakBin binsToOperateUpon : Nat) : Except Exception ℚ := do
  let y ← items data binsToOperateUpon ((peakBin : Int) - binsToOffset binsToOperateUpon)
  solve (fitRows binsToOperateUpon (windowX peakBin binsToOperateUpon) y)

/-! ## The elimination -/

theorem divide_of_ne {p q : ℚ} (h : q ≠ 0) : divide p q = .ok (p / q) := if_neg h

/-- Where no divisor is zero, the vertex of the solution. -/
theorem solve_eq {r : Rows} (hA : r.A.c0 ≠ 0) (hB : r.eliminate.B.c1 ≠ 0)
    (hC : r.eliminate.C.c2 ≠ 0) (hcurved : r.solution 2 ≠ 0) :
    solve r = .ok (-r.solution 1 / (2 * r.solution 2)) := by
  have hrow := Rows.eliminate_C hA
  have hC' : ((r.C.subtract (r.C.c0 / r.A.c0) r.A).subtract
      ((r.C.subtract (r.C.c0 / r.A.c0) r.A).c1 / r.eliminate.B.c1) r.eliminate.B).c2 ≠ 0 := by
    rwa [← hrow]
  refine bind_eq_ok.mpr ⟨_, divide_of_ne hA, bind_eq_ok.mpr ⟨_, divide_of_ne hA, bind_eq_ok.mpr
    ⟨_, divide_of_ne hB, bind_eq_ok.mpr ⟨_, divide_of_ne hC', bind_eq_ok.mpr
      ⟨_, divide_of_ne hB, ?_⟩⟩⟩⟩⟩
  change divide (-((r.eliminate.B.c3 - r.eliminate.B.c2 *
    (((r.C.subtract (r.C.c0 / r.A.c0) r.A).subtract
      ((r.C.subtract (r.C.c0 / r.A.c0) r.A).c1 / r.eliminate.B.c1) r.eliminate.B).c3 / _)) / _)) _ = _
  rw [← hrow]
  exact divide_of_ne (mul_ne_zero two_ne_zero hcurved)

/-! ## The divisors -/

variable {w p : Nat}

/-- The powers of the bins. -/
def binPowers (k : Fin 3) (q : Nat) : ℚ := ((q : ℚ) - 0) ^ (k : Nat)

/-- The rows of the script, for samples `f`. -/
def rows (w p : Nat) (f : Nat → ℚ) : Rows := fitRows w (places w p 0) (windowSamples w p f)

theorem hold_rows {f : Nat → ℚ} {b : Fin 3 → ℚ} :
    (rows w p f).Hold b ↔ Normal (windowBins w p) binPowers f b := PeakFinder.hold_fitRows

theorem combine_binPowers (b : Fin 3 → ℚ) (q : Nat) :
    combine binPowers b q = b 0 + b 1 * q + b 2 * q ^ 2 := by
  rw [combine, Fin.sum_univ_three, binPowers, binPowers, binPowers, sub_zero]
  simp only [Fin.val_zero, Fin.val_one, Fin.val_two, pow_zero, pow_one, mul_one]

/-- The first three bins of a window. -/
theorem mem_windowBins (hw : 5 ≤ w) {i : Nat} (hi : i < 3) :
    p - binsToOffset w + i ∈ windowBins w p := by
  rw [windowBins, Finset.mem_Ico]
  omega

theorem rows_eq (w p : Nat) (f : Nat → ℚ) :
    rows w p f =
      ⟨⟨moment w p 0 2, moment w p 0 3, moment w p 0 4, sampleMoment w p 0 f 2⟩,
        ⟨moment w p 0 1, moment w p 0 2, moment w p 0 3, sampleMoment w p 0 f 1⟩,
        ⟨moment w p 0 0, moment w p 0 1, moment w p 0 2, sampleMoment w p 0 f 0⟩⟩ :=
  PeakFinder.fitRows_eq 0 f

/-- A sum over the window of terms that are not negative is positive, if that of the second bin
    is. -/
theorem moment_pos (hw : 5 ≤ w) (k : Nat) : 0 < moment w p 0 k := by
  refine Finset.sum_pos' (fun q _ => pow_nonneg (by rw [sub_zero]; exact Nat.cast_nonneg q) k)
    ⟨_, mem_windowBins hw (show 1 < 3 by decide), pow_pos ?_ k⟩
  rw [sub_zero]
  exact_mod_cast Nat.succ_pos _

/-- The divisor of the first two loops is the sum of the squares of the bins. -/
theorem square_divisor_ne_zero (hw : 5 ≤ w) (f : Nat → ℚ) : (rows w p f).A.c0 ≠ 0 := by
  rw [rows_eq]
  exact (moment_pos hw 2).ne'

/-- The sum of all `q * (q * m - n) ^ 2` would be zero, where `m` is the sum of the bins and `n`
    that of their squares. -/
theorem slope_divisor_ne_zero (hw : 5 ≤ w) (f : Nat → ℚ) : (rows w p f).eliminate.B.c1 ≠ 0 := by
  have hm : 0 < moment w p 0 1 := moment_pos hw 1
  have hn : 0 < moment w p 0 2 := moment_pos hw 2
  set m := moment w p 0 1 with hmdef
  set n := moment w p 0 2 with hndef
  have hdivisor : (rows w p f).eliminate.B.c1 = n - m / n * moment w p 0 3 := by
    rw [rows_eq]
    rfl
  rw [hdivisor]
  intro hzero
  have hproduct : m * moment w p 0 3 = n * n := by
    field_simp at hzero
    linarith
  have hterm (q : Nat) : 0 ≤ (q : ℚ) * (q * m - n) ^ 2 :=
    mul_nonneg (Nat.cast_nonneg q) (sq_nonneg _)
  have hsum : ∑ q ∈ windowBins w p, (q : ℚ) * (q * m - n) ^ 2 = 0 := by
    have hexpand : ∑ q ∈ windowBins w p, (q : ℚ) * (q * m - n) ^ 2 =
        m ^ 2 * moment w p 0 3 - 2 * m * n * moment w p 0 2 + n ^ 2 * moment w p 0 1 := by
      simp only [moment, Finset.mul_sum, ← Finset.sum_sub_distrib, ← Finset.sum_add_distrib]
      refine Finset.sum_congr rfl fun q _ => ?_
      ring
    have hfactor : m ^ 2 * moment w p 0 3 - 2 * m * n * n + n ^ 2 * m =
        m * (m * moment w p 0 3 - n * n) := by ring
    rw [hexpand, ← hmdef, ← hndef, hfactor, hproduct, sub_self, mul_zero]
  have hall := (Finset.sum_eq_zero_iff_of_nonneg fun q _ => hterm q).mp hsum
  -- so the second bin times `m` is `n`, and so is the third
  have hbin {i : Nat} (hi : i < 3) (hpos : 0 < i) :
      ((p - binsToOffset w + i : Nat) : ℚ) * m = n := by
    have hne : ((p - binsToOffset w + i : Nat) : ℚ) ≠ 0 := Nat.cast_ne_zero.mpr (by omega)
    have hroot := (mul_eq_zero.mp (hall _ (mem_windowBins hw hi))).resolve_left hne
    exact sub_eq_zero.mp (pow_eq_zero_iff two_ne_zero |>.mp hroot)
  have hsecond := hbin (show 1 < 3 by decide) (by decide)
  have hthird := hbin (show 2 < 3 by decide) (by decide)
  push_cast at hsecond hthird
  linarith

/-- With zeros on the right, a last divisor of zero leaves a solution with the curvature one. -/
theorem exists_hold {r : Rows} (hA : r.A.c0 ≠ 0) (hB : r.eliminate.B.c1 ≠ 0)
    (hC : r.eliminate.C.c2 = 0) (hA3 : r.A.c3 = 0) (hB3 : r.B.c3 = 0) (hC3 : r.C.c3 = 0) :
    ∃ b : Fin 3 → ℚ, b 2 = 1 ∧ r.Hold b := by
  set b1 := -r.eliminate.B.c2 / r.eliminate.B.c1 with hb1
  have heB3 : r.eliminate.B.c3 = 0 := by
    change r.B.c3 - _ * r.A.c3 = 0
    rw [hB3, hA3, mul_zero, sub_zero]
  have heC3 : r.eliminate.C.c3 = 0 := by
    change r.C.c3 - _ * r.A.c3 - _ * r.eliminate.B.c3 = 0
    rw [hC3, hA3, heB3, mul_zero, mul_zero, sub_zero, sub_zero]
  refine ⟨![-(r.A.c1 * b1 + r.A.c2) / r.A.c0, b1, 1], rfl, (Rows.hold_eliminate hA).mp ⟨?_, ?_, ?_⟩⟩
  · change r.A.c0 * (-(r.A.c1 * b1 + r.A.c2) / r.A.c0) + r.A.c1 * b1 + r.A.c2 * 1 = r.A.c3
    rw [mul_div_cancel₀ _ hA, hA3]
    ring
  · change r.eliminate.B.c0 * _ + r.eliminate.B.c1 * b1 + r.eliminate.B.c2 * 1 = r.eliminate.B.c3
    rw [Rows.c0_eliminate_B hA, heB3, hb1, mul_div_cancel₀ _ hB]
    ring
  · change r.eliminate.C.c0 * _ + r.eliminate.C.c1 * b1 + r.eliminate.C.c2 * 1 = r.eliminate.C.c3
    rw [Rows.c0_eliminate_C hA, Rows.c1_eliminate_C hB, hC, heC3]
    ring

/-- A parabola that is zero at three bins in a row is zero everywhere. -/
theorem curvature_divisor_ne_zero (hw : 5 ≤ w) (f : Nat → ℚ) :
    (rows w p f).eliminate.C.c2 ≠ 0 := by
  have hsame : (rows w p f).eliminate.C.c2 = (rows w p 0).eliminate.C.c2 := by
    rw [rows_eq, rows_eq]
    rfl
  have hzero (k : Nat) : sampleMoment w p 0 0 k = 0 :=
    Finset.sum_eq_zero fun q _ => mul_zero _
  rw [hsame]
  intro hC
  obtain ⟨b, hb2, hhold⟩ := exists_hold (square_divisor_ne_zero hw 0) (slope_divisor_ne_zero hw 0)
    hC (by rw [rows_eq]; exact hzero 2) (by rw [rows_eq]; exact hzero 1)
    (by rw [rows_eq]; exact hzero 0)
  have hroots := combine_eq_zero_of_normal (hold_rows.mp hhold)
  have hroot {i : Nat} (hi : i < 3) := hroots _ (mem_windowBins (p := p) hw hi)
  have h0 := hroot (show 0 < 3 by decide)
  have h1 := hroot (show 1 < 3 by decide)
  have h2 := hroot (show 2 < 3 by decide)
  rw [combine_binPowers, hb2] at h0 h1 h2
  push_cast at h0 h1 h2
  linarith

/-! ## The same vertex -/

/-- The best fit does not depend on where the bins are counted from. -/
theorem normal_absolute {f : Nat → ℚ} {b : Fin 3 → ℚ}
    (h : PeakFinder.NormalEquations w p f b) :
    Normal (windowBins w p) binPowers f (PeakFinder.absolute p b) := by
  refine Normal.of_span h (fun q _ => ?_) fun k => ?_
  · rw [combine_binPowers, PeakFinder.combine_powers, PeakFinder.absolute]
    simp only [Matrix.cons_val]
    ring
  · -- the powers of the bins by those of the distances
    fin_cases k
    · refine ⟨![1, 0, 0], fun q _ => ?_⟩
      rw [PeakFinder.combine_powers, binPowers]
      simp
    · refine ⟨![(p : ℚ), 1, 0], fun q _ => ?_⟩
      rw [PeakFinder.combine_powers, binPowers]
      simp
    · refine ⟨![(p : ℚ) ^ 2, 2 * p, 1], fun q _ => ?_⟩
      rw [PeakFinder.combine_powers, binPowers, sub_zero]
      simp
      ring

theorem item_sweep (f : Nat → ℚ) {n i : Nat} (h : i < n) : item (sweep f n) i = .ok (f i) := by
  have hget : (sweep f n)[i]? = some (f i) := by
    rw [sweep, List.getElem?_map, List.getElem?_range h]
    rfl
  have hnonneg : ¬ (i : Int) < 0 := by omega
  rw [item]
  simp only [if_neg hnonneg, Int.toNat_natCast, hget]

theorem items_sweep (f : Nat → ℚ) {size n first : Nat} (h : first + n ≤ size) :
    items (sweep f size) n first = .ok ((List.range' first n).map f) := by
  induction n generalizing first with
  | zero => rfl
  | succ n ih =>
    rw [items, item_sweep f (by omega), ← Nat.cast_succ, ih (by omega)]
    rfl

theorem windowX_eq (hp : binsToOffset w ≤ p) : windowX p w = places w p 0 := by
  unfold windowX places
  refine List.map_congr_left fun i _ => ?_
  rw [sub_zero, Nat.cast_add, Nat.cast_sub hp]

/-- **The same position.** For a window inside the sweep, and samples whose fit is curved, both
    resolve the peak to the same number, and neither divides by zero. -/
theorem peakResolve_eq {n : Nat} (f : Nat → ℚ) (hlo : 5 ≤ w) (hhi : w ≤ 15)
    (hp : binsToOffset w ≤ p) (hinside : p - binsToOffset w + w ≤ n)
    (hcurved : (fit w (windowSamples w p f)).b2 ≠ 0) :
    PeakFinder.samples (sweep f n) w ((p : Int) - binsToOffset w) = .ok (windowSamples w p f) ∧
      (∀ d ∈ divisors w (windowSamples w p f), d ≠ 0) ∧
      2 * (fit w (windowSamples w p f)).b2 ≠ 0 ∧
      ∃ v, PeakFinder.peakResolve w p (windowSamples w p f) = .finite v ∧
        peakResolve (sweep f n) p w = .ok v := by
  have hfirst : (p : Int) - binsToOffset w = (p - binsToOffset w : Nat) := (Nat.cast_sub hp).symm
  have hA := square_divisor_ne_zero (p := p) hlo f
  have hB := slope_divisor_ne_zero (p := p) hlo f
  have hC := curvature_divisor_ne_zero (p := p) hlo f
  -- the fit of the C++ code, and the same in the numbers of the bins
  have hnormal := (PeakFinder.normalEquations_iff hlo hhi hp (f := f)).mpr rfl
  have hsolution := (Rows.hold_iff hA hB hC).mp (hold_rows.mpr (normal_absolute hnormal))
  have hslope : (rows w p f).solution 1 = (fit w (windowSamples w p f)).b1 -
      2 * (fit w (windowSamples w p f)).b2 * p := by
    rw [← hsolution]
    rfl
  have hcurvature : (rows w p f).solution 2 = (fit w (windowSamples w p f)).b2 := by
    rw [← hsolution]
    rfl
  refine ⟨?_, PeakFinder.divisors_ne_zero_of_width hlo hhi _, mul_ne_zero two_ne_zero hcurved, _,
    PeakFinder.peakResolve_of_fit hcurved, ?_⟩
  · rw [hfirst]
    exact PeakFinder.samples_sweep f hinside
  · refine bind_eq_ok.mpr ⟨windowSamples w p f, ?_, ?_⟩
    · rw [hfirst]
      exact items_sweep f hinside
    · have hvertex : -(rows w p f).solution 1 / (2 * (rows w p f).solution 2) =
          p - (fit w (windowSamples w p f)).b1 / (2 * (fit w (windowSamples w p f)).b2) := by
        rw [hslope, hcurvature]
        field_simp
        ring
      have hcurved' : (rows w p f).solution 2 ≠ 0 := by rwa [hcurvature]
      rw [windowX_eq hp, ← hvertex]
      exact solve_eq hA hB hC hcurved'

/-- A symmetric peak of five bins, whose middle is the third. -/
theorem peakResolve_eq_symmetric :
    (fit 5 [5, 8, 9, 8, 5]).b2 ≠ 0 ∧
      ∃ v, PeakFinder.peakResolve 5 2 [5, 8, 9, 8, 5] = .finite v ∧
        peakResolve [5, 8, 9, 8, 5] 2 5 = .ok v := by
  have hcurved : (fit 5 (windowSamples 5 2 fun q => 9 - ((q : ℚ) - 2) ^ 2)).b2 ≠ 0 := by
    decide +kernel
  have hsweep : sweep (fun q => 9 - ((q : ℚ) - 2) ^ 2) 5 = [5, 8, 9, 8, 5] := by decide +kernel
  have hwindow : windowSamples 5 2 (fun q => 9 - ((q : ℚ) - 2) ^ 2) = [5, 8, 9, 8, 5] := by
    decide +kernel
  have h := peakResolve_eq (w := 5) (p := 2) (n := 5) (fun q => 9 - ((q : ℚ) - 2) ^ 2) (by decide)
    (by decide) (by decide) (by decide) hcurved
  rw [hwindow] at hcurved h
  rw [hsweep] at h
  exact ⟨hcurved, h.2.2.2⟩

end PeakPosition

end Python

end Navtech
