/-
  `peak_resolve` of `cpp_17/navigation/peak_finder.cpp`, in exact numbers, and the range that
  `find_peaks` makes of its result.

  A parabola is fitted to the samples of the window by elimination in the normal equations. The
  divisors of the elimination do not depend on the samples and are not zero for any window
  that can be configured (`divisors_ne_zero`), so up to the fitted coefficients all numbers are
  finite. The last division, by twice the curvature, may be one by zero: the place of the peak
  and its range are then infinite, or not a number. `find_peaks` rejects a range that is
  infinite or lies outside its bounds, but what is not a number lies nowhere and passes
  (`resolve_of_degenerate`).
-/
import Mathlib.Algebra.BigOperators.Group.List.Basic
import Navtech.Lib.ExtRat
import Navtech.Navigation.PeakSafety

namespace Navtech

namespace PeakFinder

/-! ## Vector_maths -/

def scalarSum (data : List ℚ) : ℚ := data.sum

/-- `scalar_square` is a sum too, of the squares. -/
def scalarSquare (data : List ℚ) : ℚ := (data.map fun v => v * v).sum

def vectorSquare (data : List ℚ) : List ℚ := data.map fun v => v * v

def vectorCube (data : List ℚ) : List ℚ := data.map fun v => v * v * v

/-- `vector_multiply`, place by place. -/
def vectorMultiply (data1 data2 : List ℚ) : List ℚ := List.zipWith (· * ·) data1 data2

/-! ## The fit -/

/-- `double[4]`. -/
structure Row where
  c0 : ℚ
  c1 : ℚ
  c2 : ℚ
  c3 : ℚ

/-- `row[index] - (F * other[index])`, for all four. -/
def Row.subtract (row : Row) (F : ℚ) (other : Row) : Row :=
  ⟨row.c0 - F * other.c0, row.c1 - F * other.c1, row.c2 - F * other.c2, row.c3 - F * other.c3⟩

/-- The arrays `A`, `B` and `C`. -/
structure Rows where
  A : Row
  B : Row
  C : Row

/-- The array `x`: the distances of the bins of the window from the peak. -/
def offsets (binsToOperateUpon : Nat) : List ℚ :=
  (List.range binsToOperateUpon).map fun index => (index : ℚ) - binsToOffset binsToOperateUpon

/-- The rows that the sums are put into, of a fit to the values `y` at the places `x`. -/
def fitRows (binsToOperateUpon : Nat) (x y : List ℚ) : Rows :=
  let x2 := vectorSquare x
  let Sx := scalarSum x
  let Sx2 := scalarSquare x
  let Sx3 := scalarSum (vectorCube x)
  let Sx4 := scalarSum (vectorMultiply x2 x2)
  let Sy := scalarSum y
  let Sxy := scalarSum (vectorMultiply x y)
  let Sx2y := scalarSum (vectorMultiply x2 y)
  ⟨⟨Sx2, Sx3, Sx4, Sx2y⟩, ⟨Sx, Sx2, Sx3, Sxy⟩, ⟨binsToOperateUpon, Sx, Sx2, Sy⟩⟩

/-- Those of the window, about its peak. -/
def normalRows (binsToOperateUpon : Nat) (y : List ℚ) : Rows :=
  fitRows binsToOperateUpon (offsets binsToOperateUpon) y

/-- The three loops of the elimination. The last one leaves the first place of `C` alone. -/
def Rows.eliminate (r : Rows) : Rows :=
  let C := r.C.subtract (r.C.c0 / r.A.c0) r.A
  let B := r.B.subtract (r.B.c0 / r.A.c0) r.A
  let F := C.c1 / B.c1
  ⟨r.A, B, { C.subtract F B with c0 := C.c0 }⟩

/-- The fitted slope `b1` and curvature `b2`. -/
structure Fit where
  b1 : ℚ
  b2 : ℚ

/-- The elimination, and the last two rows solved from below. -/
def fit (binsToOperateUpon : Nat) (y : List ℚ) : Fit :=
  let r := (normalRows binsToOperateUpon y).eliminate
  let b2 := r.C.c3 / r.C.c2
  ⟨(r.B.c3 - r.B.c2 * b2) / r.B.c1, b2⟩

/-- `peak_resolve`: the vertex, counted from the first bin of the sweep. -/
def peakResolve (binsToOperateUpon peakBin : Nat) (y : List ℚ) : ExtRat :=
  let b := fit binsToOperateUpon y
  let startBin : ℚ := peakBin - binsToOffset binsToOperateUpon
  ((ExtRat.div (-b.b1) (2 * b.b2)).shift startBin).shift (-(0 - binsToOffset binsToOperateUpon))

/-- What the elimination divides by: in both of its first loops, in the last one and for the
    slope, and for the curvature. -/
def divisors (binsToOperateUpon : Nat) (y : List ℚ) : List ℚ :=
  let r := normalRows binsToOperateUpon y
  [r.A.c0, r.eliminate.B.c1, r.eliminate.C.c2]

theorem divisors_ne_zero_of_width {w : Nat} (hlo : 5 ≤ w) (hhi : w ≤ 15) (y : List ℚ) :
    ∀ d ∈ divisors w y, d ≠ 0 := by
  have hall : ∀ w ∈ List.range' 5 11, ∀ d ∈ divisors w [], d ≠ 0 := by decide +kernel
  have hsame : divisors w y = divisors w [] := rfl
  rw [hsame]
  refine hall _ (List.mem_range'_1.mpr ⟨hlo, ?_⟩)
  omega

theorem divisors_ne_zero (c : Scan ℚ) (y : List ℚ) :
    ∀ d ∈ divisors c.binsToOperateOn y, d ≠ 0 :=
  divisors_ne_zero_of_width c.five_le c.le_fifteen y

/-! ## Ranges -/

/-- What `find_peaks` reads of the two configurations, besides the number of bins. -/
structure Ranging where
  rangeGain : ℚ
  rangeOffset : ℚ
  rangeResolutionMetres : ℚ
deriving DecidableEq

namespace Ranging

variable (g : Ranging) (binsToOperateOn rangeInBins : Nat)

/-- As many bins as the window is wide. -/
def minimumRange : ℚ := binsToOperateOn * g.rangeResolutionMetres

/-- All bins of the configuration. -/
def maximumRange : ℚ := rangeInBins * g.rangeResolutionMetres

/-- The range of a peak, of the samples around it. -/
def range (peakBin : Nat) (y : List ℚ) : ExtRat :=
  let resolvedBin := peakResolve binsToOperateOn peakBin y
  ((resolvedBin.scale g.rangeGain).scale g.rangeResolutionMetres).shift g.rangeOffset

/-- The range, where the loop does not `continue`. -/
def resolve (peakBin : Nat) (y : List ℚ) : Option ExtRat :=
  let range := g.range binsToOperateOn peakBin y
  if range.isInf || range.lt (g.minimumRange binsToOperateOn) ||
      range.gt (g.maximumRange rangeInBins) then none
  else some range

end Ranging

namespace Scan

variable (c : Scan ℚ) (g : Ranging)

/-- A number within the bounds. -/
def Plausible (range : ExtRat) : Prop :=
  ∃ r, range = .finite r ∧ g.minimumRange c.binsToOperateOn ≤ r ∧
    r ≤ g.maximumRange c.rangeInBins

/-- The fitted curvature is zero, and so is the slope or the gain. -/
def Degenerate (y : List ℚ) : Prop :=
  (fit c.binsToOperateOn y).b2 = 0 ∧ ((fit c.binsToOperateOn y).b1 = 0 ∨ g.rangeGain = 0)

variable {c g} {peakBin : Nat} {y : List ℚ}

theorem range_eq_nan (hres : 0 < g.rangeResolutionMetres) :
    g.range c.binsToOperateOn peakBin y = .nan ↔ c.Degenerate g y := by
  unfold Ranging.range peakResolve Degenerate
  dsimp only
  rw [ExtRat.shift_eq_nan, ExtRat.scale_eq_nan, or_iff_left fun h => hres.ne' h.2,
    ExtRat.scale_eq_nan, ExtRat.shift_eq_nan, ExtRat.shift_eq_nan, ExtRat.isInf_shift,
    ExtRat.isInf_shift, ExtRat.div_eq_nan, ExtRat.isInf_div, neg_eq_zero, mul_eq_zero,
    or_iff_right (two_ne_zero' ℚ)]
  constructor
  · intro h
    rcases h with ⟨hb1, hb2⟩ | ⟨⟨-, hb2⟩, hgain⟩
    · exact ⟨hb2, .inl hb1⟩
    · exact ⟨hb2, .inr hgain⟩
  · intro h
    obtain ⟨hb2, hb1 | hgain⟩ := h
    · exact .inl ⟨hb1, hb2⟩
    · by_cases hb1 : (fit c.binsToOperateOn y).b1 = 0
      · exact .inl ⟨hb1, hb2⟩
      · exact .inr ⟨⟨neg_ne_zero.mpr hb1, hb2⟩, hgain⟩

/-- What is not a number is not rejected. -/
theorem resolve_of_degenerate (hres : 0 < g.rangeResolutionMetres) (h : c.Degenerate g y) :
    g.resolve c.binsToOperateOn c.rangeInBins peakBin y = some .nan := by
  unfold Ranging.resolve
  rw [(range_eq_nan hres).mpr h]
  rfl

/-- Of the peaks with a regular fit, those with a plausible range go on. -/
theorem plausible_of_resolve (hres : 0 < g.rangeResolutionMetres) (h : ¬ c.Degenerate g y)
    {range : ExtRat}
    (hrange : g.resolve c.binsToOperateOn c.rangeInBins peakBin y = some range) :
    c.Plausible g range := by
  unfold Ranging.resolve at hrange
  dsimp only at hrange
  split at hrange
  · exact nomatch hrange
  · rename_i haccepted
    obtain rfl := Option.some.inj hrange
    rw [Bool.or_eq_true, Bool.or_eq_true, not_or, not_or] at haccepted
    obtain ⟨⟨hinf, hlo⟩, hhi⟩ := haccepted
    rcases ExtRat.within_or_nan (Bool.eq_false_iff.mpr hinf) (Bool.eq_false_iff.mpr hlo)
      (Bool.eq_false_iff.mpr hhi) with hnan | hwithin
    · exact absurd ((range_eq_nan hres).mp hnan) h
    · exact hwithin

end Scan

end PeakFinder

end Navtech
