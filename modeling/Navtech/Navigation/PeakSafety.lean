/-
  Which elements of the sweep a search for peaks reads.

  A scan reads no further than the bin behind its last one, and `peak_resolve` reads the window
  around the bin reported, which ends inside the sweep. It begins before it where a peak lies
  nearer to the start of the sweep than half a window; `find_peak_bin` reports such a peak if
  the start bin lets it. No element outside is read exactly if there is none
  (`succeeds_findPeaks_iff`), for instance if the start bin is half a window or more.
-/
import Navtech.Navigation.PeakBins

namespace Navtech

namespace PeakFinder

open CheckedView (Succeeds bind_eq_ok)

variable {α : Type}

/-! ## Windows -/

theorem samples_sweep (f : Nat → α) {size n first : Nat} (h : first + n ≤ size) :
    samples (sweep f size) n first = .ok ((List.range' first n).map f) := by
  induction n generalizing first with
  | zero => rfl
  | succ n ih =>
    have hrest := @ih (first + 1) (by omega)
    unfold samples
    rw [sample_sweep f (by omega), ← Nat.cast_succ, Nat.succ_eq_add_one, hrest]
    rfl

theorem not_succeeds_samples (data : List α) {n : Nat} {first : Int} (hn : 0 < n)
    (h : first < 0) : ¬ Succeeds (samples data n first) := by
  intro hsucceeds
  obtain ⟨vs, hvs⟩ := hsucceeds
  obtain ⟨n, rfl⟩ := Nat.exists_eq_succ_of_ne_zero hn.ne'
  obtain ⟨v, hv, -⟩ := bind_eq_ok.mp hvs
  unfold sample at hv
  rw [if_pos h] at hv
  exact nomatch hv

namespace Scan

variable {R : Type} {c : Scan α} {f : Nat → α} {resolve : Nat → List α → Option R}

/-- The samples of the window around a bin. -/
def window (c : Scan α) (f : Nat → α) (p : Nat) : List α :=
  (List.range' (p - binsToOffset c.binsToOperateOn) c.binsToOperateOn).map f

theorem locate_sweep {p : Nat} (hfirst : binsToOffset c.binsToOperateOn ≤ p)
    (hfits : p + c.binsToOperateOn ≤ c.rangeInBins) :
    c.locate (sweep f c.rangeInBins) resolve p =
      .ok ((resolve p (c.window f p)).map fun range => (range, f p)) := by
  have hfive := c.five_le
  have hwindow : samples (sweep f c.rangeInBins) c.binsToOperateOn
      ((p : Int) - binsToOffset c.binsToOperateOn) = .ok (c.window f p) := by
    rw [← Nat.cast_sub hfirst]
    exact samples_sweep f (by omega)
  unfold locate
  rw [hwindow, sample_sweep f (by omega)]
  dsimp only [bind, Except.bind]
  cases resolve p (c.window f p) <;> rfl

/-- A peak can be resolved exactly if its window does not begin before the sweep. -/
theorem succeeds_locate_iff {p : Nat} (hfits : p + c.binsToOperateOn ≤ c.rangeInBins) :
    Succeeds (c.locate (sweep f c.rangeInBins) resolve p) ↔
      binsToOffset c.binsToOperateOn ≤ p := by
  have hfive := c.five_le
  constructor
  · intro h
    by_contra hlt
    obtain ⟨target, htarget⟩ := h
    obtain ⟨y, hy, -⟩ := bind_eq_ok.mp htarget
    exact not_succeeds_samples (sweep f c.rangeInBins) (n := c.binsToOperateOn) (by omega)
      (by omega) ⟨y, hy⟩
  · intro hfirst
    exact ⟨_, locate_sweep hfirst hfits⟩

/-! ## The search -/

variable [LinearOrder α] {s : Search (R × α)}

/-- The next peak lies behind the start bin. -/
theorem NextPeak.after_min (h : Inv c f s) (hs : c.goesOn s = true) {p : Nat}
    (hp : c.NextPeak f s p) : c.minBinToOperateOn ≤ p := by
  cases h.resumes hs with
  | fresh _ hmin => exact hmin ▸ hp.from_start
  | behind q hq hmin _ =>
    have hfrom := hp.from_start
    have hq' := h.from_min q hq
    omega

/-- **Every element that is read exists**, exactly if no peak from the start bin on lies nearer
    to the start of the sweep than half a window. -/
theorem succeeds_findPeaks_iff (c : Scan α) (f : Nat → α) (resolve : Nat → List α → Option R) :
    Succeeds (c.findPeaks (sweep f c.rangeInBins) (c.locate (sweep f c.rangeInBins) resolve)) ↔
      ∀ q, c.minBinToOperateOn ≤ q → q + c.binsToOperateOn ≤ c.rangeInBins →
        IsPeak c.threshold f q → binsToOffset c.binsToOperateOn ≤ q := by
  have hfive := c.five_le
  constructor
  · intro h q hmin hfits hpeak
    have hgoes : c.goesOn (c.start : Search (R × α)) = true := by
      unfold goesOn start
      simp only [Bool.not_false, Bool.true_and, bne_iff_ne]
      omega
    have htrip : Succeeds (c.trip (sweep f c.rangeInBins)
        (c.locate (sweep f c.rangeInBins) resolve) c.start) := by
      obtain ⟨s, hs⟩ := h
      unfold findPeaks at hs
      rw [Loop.turns_succ_of_cond _ hgoes] at hs
      obtain ⟨s₁, hs₁, -⟩ := bind_eq_ok.mp hs
      exact ⟨s₁, hs₁⟩
    have hfires : c.FiresNext f (c.start : Search (R × α)) q := fires_false.mpr hpeak
    rcases trip_spec c f (c.locate (sweep f c.rangeInBins) resolve) c.start with
      ⟨-, -, hnone⟩ | ⟨p, -, hp⟩
    · exact absurd hfires (hnone q hmin hfits)
    · have hpq : p ≤ q := by
        by_contra hlt
        exact hp.first q hmin (by omega) hfires
      have hlocate := succeeds_trip.mp htrip p hp
      exact ((succeeds_locate_iff hp.fits).mp hlocate).trans hpq
  · intro h
    refine Loop.turns_succeeds (I := Inv c f) ?_ _ inv_start
    intro s hinv hs
    have htrip : Succeeds (c.trip (sweep f c.rangeInBins)
        (c.locate (sweep f c.rangeInBins) resolve) s) := by
      refine succeeds_trip.mpr fun p hp => (succeeds_locate_iff hp.fits).mpr ?_
      exact h p (hp.after_min hinv hs) hp.fits hp.fires.1
    obtain ⟨s', hs'⟩ := htrip
    exact ⟨s', hs', inv_trip hinv hs hs'⟩

/-- The start bin 1 lets a peak at bin 1 through, whose window of five begins at bin -1. -/
theorem findPeaks_reads_before :
    fiveOfThirteen.findPeaks (sweep (twoPeaks 1 8) 13)
        (fiveOfThirteen.locate (sweep (twoPeaks 1 8) 13) fun peakBin _ => some peakBin) =
      .error (.outOfBounds (-1) 13) := rfl

end Scan

end PeakFinder

end Navtech
