/-
  The 16-bit indices of the search of `cpp_17/navigation/peak_finder.cpp`.

  `PeakScan` counts bins in natural numbers and gives the loops as many turns as they need. Here
  `find_peaks` and `find_peak_bin` are one machine (`step`) that tests and adds as the code does:
  an index is a `std::uint16_t`, a comparison is between values of `int`, and nothing bounds the
  turns. Beside its 16 bits an index carries the number that it stands for (`Index.exact`), which
  no step looks at; the index has wrapped around where the two differ. `used` lists the indices
  that a scan has been started from or data has been read at, and `calls` counts the calls of
  `find_peak_bin`.

  The sum `peak_bin + bins_to_operate_on` does wrap around, behind the end marker near 65535,
  but the loop ends then. What the machine keeps is `Inv`: the start of the next scan lies a
  window further on for each call made. `toGo` falls with each step (`indexInv_step`).
-/
import Navtech.Lib.Iterate
import Navtech.Navigation.PeakScan

namespace Navtech

namespace PeakFinder

/-- A `std::uint16_t` that holds an index, and the number it stands for: the sums that have made
    it, taken without a limit. -/
structure Index where
  value : UInt16
  exact : Nat
deriving DecidableEq, Repr

namespace Index

/-- A value that has not wrapped. -/
def ofValue (v : UInt16) : Index := ⟨v, v.toNat⟩

/-- The sum is an `int`, and is cut to 16 bits where it is stored. -/
def add (i : Index) (n : Nat) : Index := ⟨UInt16.ofNat (i.value.toNat + n), i.exact + n⟩

/-- The sum that was meant is another number. -/
def Wrapped (i : Index) : Prop := i.value.toNat ≠ i.exact

instance (i : Index) : Decidable i.Wrapped := inferInstanceAs (Decidable (_ ≠ _))

theorem toNat_value {i : Index} (h : ¬ i.Wrapped) : i.value.toNat = i.exact := not_not.mp h

theorem not_wrapped_ofValue (v : UInt16) : ¬ (ofValue v).Wrapped := not_not.mpr rfl

theorem not_wrapped_add {i : Index} {n : Nat} (h : ¬ i.Wrapped) (hlt : i.exact + n < 2 ^ 16) :
    ¬ (i.add n).Wrapped := by
  refine not_not.mpr ?_
  show (UInt16.ofNat (i.value.toNat + n)).toNat = i.exact + n
  rw [toNat_value h]
  exact UInt16.toNat_ofNat_of_lt hlt

end Index

/-- Where the code is. -/
inductive Control where
  /-- At the condition of `while`, in `find_peaks`. -/
  | whileLoop
  /-- At the condition of `for`, in `find_peak_bin`. -/
  | forLoop (peakBin : Index)
  /-- `find_peak_bin` has returned. -/
  | returned (peakBin : Index)
  | ended
  | fault (e : Fault)
deriving DecidableEq, Repr

/-- The locals of `find_peaks`, with those of the call in `control`. -/
structure State (ρ : Type) where
  control : Control
  peakBin : Index
  awaitingRise : Bool
  minBinToOperateUpon : Index
  peaksFound : Nat
  targets : List ρ
  /-- The calls of `find_peak_bin` so far. -/
  calls : Nat
  /-- The indices that data has been read at, or a scan has been started from. -/
  used : List Index

variable {α ρ : Type}

/-- The body of the loop of `find_peak_bin`: whether the bin is returned, and `awaiting_rise`. -/
def lookAt [LT α] [DecidableLT α] (threshold : α) (data : List α) (peakBin : Nat)
    (awaitingRise : Bool) : Except Fault (Bool × Bool) := do
  if ← andThen awaitingRise (falls data peakBin) then return (false, awaitingRise)
  else
    -- `awaiting_rise` is false from here on
    let above ← exceeds threshold data peakBin
    if ← andThen above (falls data peakBin) then return (true, true)
    else return (false, false)

namespace Scan

/-- `range_in_bins`, which `find_peak_bin` returns where it finds nothing. -/
def endBin (c : Scan α) : Index := .ofValue (UInt16.ofNat c.rangeInBins)

def startState (c : Scan α) : State ρ where
  control := .whileLoop
  peakBin := .ofValue 0
  awaitingRise := false
  minBinToOperateUpon := .ofValue (UInt16.ofNat c.minBinToOperateOn)
  peaksFound := 0
  targets := []
  calls := 0
  used := []

/-- `find_peak_bin` is called, and comes to its loop or returns before it. -/
def callFindPeakBin (c : Scan α) (s : State ρ) : State ρ :=
  let s := { s with calls := s.calls + 1, used := s.minBinToOperateUpon :: s.used }
  if (s.minBinToOperateUpon.value.toNat : Int) > c.rangeInBins - c.binsToOperateOn then
    { s with control := .returned c.endBin }
  else { s with control := .forLoop s.minBinToOperateUpon }

/-- `if (peaks_found >= max_peaks_per_azimuth) break;`. -/
def testLimit (c : Scan α) (s : State ρ) : State ρ :=
  if s.peaksFound ≥ c.maxPeaksPerAzimuth then { s with control := .ended }
  else { s with control := .whileLoop }

/-- The rest of the body of the loop of `find_peaks`. -/
def afterCall (c : Scan α) (locate : Nat → Except Fault (Option ρ)) (s : State ρ)
    (peakBin : Index) : State ρ :=
  let s := { s with
    peakBin := peakBin
    minBinToOperateUpon := peakBin.add c.binsToOperateOn }
  if peakBin.value.toNat < c.rangeInBins then
    let s := { s with used := peakBin :: s.used }
    match locate peakBin.value.toNat with
    | .error e => { s with control := .fault e }
    | .ok none => { s with control := .whileLoop } -- `continue`: the limit is not tested
    | .ok (some target) =>
      c.testLimit { s with targets := s.targets ++ [target], peaksFound := s.peaksFound + 1 }
  else c.testLimit s

variable [LT α] [DecidableLT α]

/-- One turn of the loop of `find_peak_bin`, from its condition on. -/
def turnFor (c : Scan α) (data : List α) (s : State ρ) (peakBin : Index) : State ρ :=
  if (peakBin.value.toNat : Int) ≤ c.rangeInBins - c.binsToOperateOn then
    let s := { s with used := peakBin :: s.used }
    match lookAt c.threshold data peakBin.value.toNat s.awaitingRise with
    | .error e => { s with control := .fault e }
    | .ok (true, awaitingRise) =>
      { s with control := .returned peakBin, awaitingRise := awaitingRise }
    | .ok (false, awaitingRise) =>
      { s with control := .forLoop (peakBin.add 1), awaitingRise := awaitingRise }
  else { s with control := .returned c.endBin }

/-- One statement, by where the program stands. -/
def step (c : Scan α) (data : List α) (locate : Nat → Except Fault (Option ρ)) (s : State ρ) :
    State ρ :=
  match s.control with
  | .whileLoop =>
    if s.peakBin.value.toNat ≠ c.rangeInBins then c.callFindPeakBin s
    else { s with control := .ended }
  | .forLoop peakBin => c.turnFor data s peakBin
  | .returned peakBin => c.afterCall locate s peakBin
  | .ended => s
  | .fault _ => s

/-- The search of the sweep of the function, after `n` steps. -/
def stateAfter (c : Scan α) (f : Nat → α) (locate : Nat → Except Fault (Option ρ)) (n : Nat) :
    State ρ :=
  (c.step (sweep f c.rangeInBins) locate)^[n] c.startState

end Scan

/-- The search is over, or what becomes of a peak is a fault. -/
def State.Halted (locate : Nat → Except Fault (Option ρ)) (s : State ρ) : Prop :=
  s.control = .ended ∨ ∃ e, s.control = .fault e ∧ ∃ p, locate p = .error e

namespace Scan

/-! ## The steps -/

section Steps

variable {c : Scan α} {f : Nat → α} {locate : Nat → Except Fault (Option ρ)} {s : State ρ}

theorem toNat_endBin (c : Scan α) : c.endBin.value.toNat = c.rangeInBins :=
  UInt16.toNat_ofNat_of_lt c.rangeInBins_lt

/-- Behind the end marker, the sum wraps around wherever it does not fit. -/
theorem wrapped_behind_endBin_iff (c : Scan α) :
    (c.endBin.add c.binsToOperateOn).Wrapped ↔ 2 ^ 16 ≤ c.rangeInBins + c.binsToOperateOn := by
  have hlt16 := c.rangeInBins_lt
  show (UInt16.ofNat (c.endBin.value.toNat + c.binsToOperateOn)).toNat ≠
    c.endBin.value.toNat + c.binsToOperateOn ↔ _
  rw [UInt16.toNat_ofNat', toNat_endBin]
  omega

/-- What the limit makes of a state is that it goes on, or that it ends. -/
theorem testLimit_cases (c : Scan α) (s : State ρ) :
    c.testLimit s = { s with control := .ended } ∨
      c.testLimit s = { s with control := .whileLoop } := by
  unfold testLimit
  split
  · exact .inl rfl
  · exact .inr rfl

variable [LT α] [DecidableLT α]

/-- Within the data, a turn of the loop of `find_peak_bin` reads what is there. -/
theorem lookAt_sweep (threshold : α) (f : Nat → α) {n p : Nat} (awaitingRise : Bool)
    (h : p + 1 < n) :
    lookAt threshold (sweep f n) p awaitingRise =
      .ok (if awaitingRise = true ∧ f (p + 1) < f p then (false, awaitingRise)
        else if threshold < f p ∧ f (p + 1) < f p then (true, true)
        else (false, false)) := by
  unfold lookAt
  rw [falls_sweep h, exceeds_sweep (by omega), andThen_ok]
  dsimp only [bind, Except.bind, pure, Except.pure]
  rw [andThen_ok]
  simp only [Bool.and_eq_true, decide_eq_true_eq]
  split
  · rfl
  · split
    · rfl
    · rfl

theorem step_whileLoop (data : List α) (hc : s.control = .whileLoop)
    (hgo : s.peakBin.value.toNat ≠ c.rangeInBins) :
    c.step data locate s = c.callFindPeakBin s := by
  unfold step
  rw [hc]
  exact if_pos hgo

theorem step_whileLoop_end (data : List α) (hc : s.control = .whileLoop)
    (hend : s.peakBin.value.toNat = c.rangeInBins) :
    c.step data locate s = { s with control := .ended } := by
  unfold step
  rw [hc]
  exact if_neg (not_not.mpr hend)

theorem step_forLoop (data : List α) {i : Index} (hc : s.control = .forLoop i) :
    c.step data locate s = c.turnFor data s i := by
  unfold step
  rw [hc]

theorem step_returned (data : List α) {p : Index} (hc : s.control = .returned p) :
    c.step data locate s = c.afterCall locate s p := by
  unfold step
  rw [hc]

theorem turnFor_over (data : List α) {i : Index}
    (hover : c.rangeInBins < i.value.toNat + c.binsToOperateOn) :
    c.turnFor data s i = { s with control := .returned c.endBin } := by
  unfold turnFor
  exact if_neg (by omega)

theorem turnFor_reports {data : List α} {i : Index} {awaitingRise : Bool}
    (hin : i.value.toNat + c.binsToOperateOn ≤ c.rangeInBins)
    (hlook : lookAt c.threshold data i.value.toNat s.awaitingRise = .ok (true, awaitingRise)) :
    c.turnFor data s i = { s with
      control := .returned i, awaitingRise := awaitingRise, used := i :: s.used } := by
  unfold turnFor
  rw [if_pos (by omega)]
  simp only [hlook]

theorem turnFor_passes {data : List α} {i : Index} {awaitingRise : Bool}
    (hin : i.value.toNat + c.binsToOperateOn ≤ c.rangeInBins)
    (hlook : lookAt c.threshold data i.value.toNat s.awaitingRise = .ok (false, awaitingRise)) :
    c.turnFor data s i = { s with
      control := .forLoop (i.add 1), awaitingRise := awaitingRise, used := i :: s.used } := by
  unfold turnFor
  rw [if_pos (by omega)]
  simp only [hlook]

theorem turnFor_fault {data : List α} {i : Index} {e : Fault}
    (hin : i.value.toNat + c.binsToOperateOn ≤ c.rangeInBins)
    (hlook : lookAt c.threshold data i.value.toNat s.awaitingRise = .error e) :
    c.turnFor data s i = { s with control := .fault e, used := i :: s.used } := by
  unfold turnFor
  rw [if_pos (by omega)]
  simp only [hlook]

/-- A turn of the loop of `find_peak_bin` that does not end the loop finds its bin and the next
    in the data, and returns the bin or goes on. -/
theorem turnFor_cases (f : Nat → α) {i : Index}
    (hin : i.value.toNat + c.binsToOperateOn ≤ c.rangeInBins) :
    ∃ awaitingRise,
      c.turnFor (sweep f c.rangeInBins) s i = { s with
        control := .returned i, awaitingRise := awaitingRise, used := i :: s.used } ∨
      c.turnFor (sweep f c.rangeInBins) s i = { s with
        control := .forLoop (i.add 1), awaitingRise := awaitingRise, used := i :: s.used } := by
  have hfive := c.five_le
  obtain ⟨⟨reports, awaitingRise⟩, hlook⟩ : ∃ r,
      lookAt c.threshold (sweep f c.rangeInBins) i.value.toNat s.awaitingRise = .ok r :=
    ⟨_, lookAt_sweep c.threshold f s.awaitingRise (by omega)⟩
  refine ⟨awaitingRise, ?_⟩
  cases reports with
  | true => exact .inl (turnFor_reports hin hlook)
  | false => exact .inr (turnFor_passes hin hlook)

end Steps

/-! ## What the machine keeps -/

/-- What holds where the code is: the bin it has come to lies a window further on for each call
    made, up to the last. -/
def Place (c : Scan α) (locate : Nat → Except Fault (Option ρ)) (s : State ρ) : Control → Prop
  | .whileLoop => s.peakBin.value.toNat = c.rangeInBins ∨
      ¬ s.minBinToOperateUpon.Wrapped ∧
        s.calls * c.binsToOperateOn ≤ s.minBinToOperateUpon.exact ∧
        (s.calls = 0 ∨ s.minBinToOperateUpon.exact ≤ c.rangeInBins)
  | .forLoop i => ¬ i.Wrapped ∧ s.calls * c.binsToOperateOn ≤ i.exact + c.binsToOperateOn ∧
      i.exact + c.binsToOperateOn ≤ c.rangeInBins + 1
  | .returned p => p.value.toNat = c.rangeInBins ∨
      ¬ p.Wrapped ∧ s.calls * c.binsToOperateOn ≤ p.exact + c.binsToOperateOn ∧
        p.exact + c.binsToOperateOn ≤ c.rangeInBins
  | .ended => True
  | .fault e => ∃ p, locate p = .error e

/-- No index that has been used has wrapped, and the calls keep to their bound. -/
structure IndexInv (c : Scan α) (locate : Nat → Except Fault (Option ρ)) (s : State ρ) : Prop where
  used : ∀ i ∈ s.used, ¬ i.Wrapped
  calls_le : s.calls ≤ c.rangeInBins / c.binsToOperateOn + 1
  place : c.Place locate s s.control

/-- A bound on the steps to go. -/
def toGo (c : Scan α) (s : State ρ) : Nat :=
  match s.control with
  | .whileLoop =>
    if s.peakBin.value.toNat = c.rangeInBins then 1
    else 3 * (c.rangeInBins - s.minBinToOperateUpon.exact) + 4
  | .forLoop i => 3 * (c.rangeInBins - i.exact) + 3
  | .returned p =>
    if p.value.toNat = c.rangeInBins then 2 else 3 * (c.rangeInBins - p.exact) + 2
  | .ended => 0
  | .fault _ => 0

section Invariant

variable {c : Scan α} {f : Nat → α} {locate : Nat → Except Fault (Option ρ)} {s : State ρ}

theorem toGo_whileLoop (hc : s.control = .whileLoop)
    (hgo : s.peakBin.value.toNat ≠ c.rangeInBins) :
    c.toGo s = 3 * (c.rangeInBins - s.minBinToOperateUpon.exact) + 4 := by
  unfold toGo
  rw [hc]
  exact if_neg hgo

theorem toGo_whileLoop_end (hc : s.control = .whileLoop)
    (hend : s.peakBin.value.toNat = c.rangeInBins) : c.toGo s = 1 := by
  unfold toGo
  rw [hc]
  exact if_pos hend

theorem toGo_forLoop {i : Index} (hc : s.control = .forLoop i) :
    c.toGo s = 3 * (c.rangeInBins - i.exact) + 3 := by
  unfold toGo
  rw [hc]

theorem toGo_returned {p : Index} (hc : s.control = .returned p)
    (hpeak : p.value.toNat ≠ c.rangeInBins) :
    c.toGo s = 3 * (c.rangeInBins - p.exact) + 2 := by
  unfold toGo
  rw [hc]
  exact if_neg hpeak

theorem toGo_returned_end {p : Index} (hc : s.control = .returned p)
    (hend : p.value.toNat = c.rangeInBins) : c.toGo s = 2 := by
  unfold toGo
  rw [hc]
  exact if_pos hend

theorem window_pos (c : Scan α) : 0 < c.binsToOperateOn := by
  have hfive := c.five_le
  omega

theorem indexInv_start (c : Scan α) (locate : Nat → Except Fault (Option ρ)) :
    c.IndexInv locate c.startState where
  used := by
    intro i hi
    exact nomatch hi
  calls_le := Nat.zero_le _
  place := by
    refine .inr ⟨Index.not_wrapped_ofValue _, ?_, .inl rfl⟩
    show 0 * c.binsToOperateOn ≤ _
    rw [Nat.zero_mul]
    exact Nat.zero_le _

/-- An index that is used has not wrapped around, so what has been used since has not. -/
theorem used_cons {i : Index} (h : ∀ i ∈ s.used, ¬ i.Wrapped) (hi : ¬ i.Wrapped) :
    ∀ j ∈ i :: s.used, ¬ j.Wrapped := by
  intro j hj
  rcases List.mem_cons.mp hj with rfl | hj
  · exact hi
  · exact h j hj

/-- A call moves the bin that the next scan may start from a window further on, so there is room
    for the call. -/
theorem calls_lt {m : Nat} (hroom : s.calls * c.binsToOperateOn ≤ m)
    (hin : s.calls = 0 ∨ m ≤ c.rangeInBins) :
    s.calls ≤ c.rangeInBins / c.binsToOperateOn := by
  rw [Nat.le_div_iff_mul_le c.window_pos]
  rcases hin with hzero | hle
  · rw [hzero, Nat.zero_mul]
    exact Nat.zero_le _
  · exact hroom.trans hle

theorem indexInv_callFindPeakBin (h : c.IndexInv locate s) (hc : s.control = .whileLoop)
    (hgo : s.peakBin.value.toNat ≠ c.rangeInBins) :
    c.IndexInv locate (c.callFindPeakBin s) ∧ c.toGo (c.callFindPeakBin s) < c.toGo s := by
  have hplace := h.place
  rw [hc] at hplace
  obtain ⟨hexact, hroom, hin⟩ := hplace.resolve_left hgo
  have hused := used_cons h.used hexact
  have hcalls : s.calls + 1 ≤ c.rangeInBins / c.binsToOperateOn + 1 :=
    Nat.succ_le_succ (calls_lt hroom hin)
  rw [toGo_whileLoop hc hgo]
  unfold callFindPeakBin
  dsimp only
  split
  · refine ⟨⟨hused, hcalls, .inl c.toNat_endBin⟩, ?_⟩
    rw [toGo_returned_end rfl c.toNat_endBin]
    omega
  · rename_i hfits
    rw [Index.toNat_value hexact] at hfits
    refine ⟨⟨hused, hcalls, hexact, ?_, ?_⟩, ?_⟩
    · show (s.calls + 1) * c.binsToOperateOn ≤ s.minBinToOperateUpon.exact + c.binsToOperateOn
      rw [Nat.succ_mul]
      omega
    · omega
    · rw [toGo_forLoop rfl]
      omega

/-- Whether the limit ends the search or not. -/
theorem indexInv_testLimit {m : Nat} (h : c.IndexInv locate { s with control := .whileLoop })
    (hless : c.toGo { s with control := .whileLoop } < m) :
    c.IndexInv locate (c.testLimit s) ∧ c.toGo (c.testLimit s) < m := by
  rcases c.testLimit_cases s with hend | hgo
  · rw [hend]
    exact ⟨⟨h.used, h.calls_le, trivial⟩, Nat.zero_lt_of_lt hless⟩
  · rw [hgo]
    exact ⟨h, hless⟩

theorem indexInv_afterCall_end {p : Index} (h : c.IndexInv locate s) (hc : s.control = .returned p)
    (hend : p.value.toNat = c.rangeInBins) :
    c.IndexInv locate (c.afterCall locate s p) ∧ c.toGo (c.afterCall locate s p) < c.toGo s := by
  rw [toGo_returned_end hc hend]
  unfold afterCall
  dsimp only
  rw [if_neg (by omega)]
  refine indexInv_testLimit ⟨h.used, h.calls_le, .inl hend⟩ ?_
  rw [toGo_whileLoop_end rfl hend]
  exact Nat.one_lt_two

/-- Behind a peak, whatever has become of it, the next scan starts a window further on. The
    window of the peak lies in the range, so the start has not wrapped around. -/
theorem indexInv_behindPeak {p : Index} (h : c.IndexInv locate s) (hc : s.control = .returned p)
    (hpeak : p.value.toNat ≠ c.rangeInBins) (targets : List ρ) (peaksFound : Nat) :
    c.IndexInv locate { s with
        control := .whileLoop
        peakBin := p
        minBinToOperateUpon := p.add c.binsToOperateOn
        used := p :: s.used
        targets := targets
        peaksFound := peaksFound } ∧
      c.toGo { s with
        control := .whileLoop
        peakBin := p
        minBinToOperateUpon := p.add c.binsToOperateOn
        used := p :: s.used
        targets := targets
        peaksFound := peaksFound } < c.toGo s := by
  have hfive := c.five_le
  have hlt16 := c.rangeInBins_lt
  have hplace := h.place
  rw [hc] at hplace
  obtain ⟨hexact, hroom, hin⟩ := hplace.resolve_left hpeak
  have hnext : ¬ (p.add c.binsToOperateOn).Wrapped :=
    Index.not_wrapped_add hexact (by omega)
  refine ⟨⟨used_cons h.used hexact, h.calls_le, .inr ⟨hnext, hroom, .inr hin⟩⟩, ?_⟩
  rw [toGo_whileLoop rfl hpeak, toGo_returned hc hpeak]
  show 3 * (c.rangeInBins - (p.exact + c.binsToOperateOn)) + 4 < _
  omega

theorem indexInv_afterCall_peak {p : Index} (h : c.IndexInv locate s) (hc : s.control = .returned p)
    (hpeak : p.value.toNat ≠ c.rangeInBins) :
    c.IndexInv locate (c.afterCall locate s p) ∧ c.toGo (c.afterCall locate s p) < c.toGo s := by
  have hplace := h.place
  rw [hc] at hplace
  obtain ⟨hexact, -, hin⟩ := hplace.resolve_left hpeak
  have hlt : p.value.toNat < c.rangeInBins := by
    have hpos := c.window_pos
    rw [Index.toNat_value hexact]
    omega
  have hbehind := indexInv_behindPeak h hc hpeak
  unfold afterCall
  dsimp only
  rw [if_pos hlt]
  cases hlocate : locate p.value.toNat with
  | error e =>
    refine ⟨⟨used_cons h.used hexact, h.calls_le, ⟨_, hlocate⟩⟩, ?_⟩
    rw [toGo_returned hc hpeak]
    exact Nat.succ_pos _
  | ok found =>
    cases found with
    | none => exact hbehind s.targets s.peaksFound
    | some target =>
      obtain ⟨hinv, hless⟩ := hbehind (s.targets ++ [target]) (s.peaksFound + 1)
      exact indexInv_testLimit hinv hless

variable [LT α] [DecidableLT α]

theorem indexInv_turnFor {i : Index} (h : c.IndexInv locate s) (hc : s.control = .forLoop i) :
    c.IndexInv locate (c.turnFor (sweep f c.rangeInBins) s i) ∧
      c.toGo (c.turnFor (sweep f c.rangeInBins) s i) < c.toGo s := by
  have hfive := c.five_le
  have hlt16 := c.rangeInBins_lt
  have hplace := h.place
  rw [hc] at hplace
  obtain ⟨hexact, hroom, hin⟩ := hplace
  rw [toGo_forLoop hc]
  by_cases hfits : i.value.toNat + c.binsToOperateOn ≤ c.rangeInBins
  · have hused := used_cons h.used hexact
    have hval := Index.toNat_value hexact
    rcases turnFor_cases f hfits with ⟨awaitingRise, hreports | hpasses⟩
    · rw [hreports]
      refine ⟨⟨hused, h.calls_le, .inr ⟨hexact, hroom, by omega⟩⟩, ?_⟩
      rw [toGo_returned rfl (by omega)]
      omega
    · rw [hpasses]
      refine ⟨⟨hused, h.calls_le, Index.not_wrapped_add hexact (by omega), ?_, ?_⟩, ?_⟩
      · show s.calls * c.binsToOperateOn ≤ i.exact + 1 + c.binsToOperateOn
        omega
      · show i.exact + 1 + c.binsToOperateOn ≤ c.rangeInBins + 1
        omega
      · rw [toGo_forLoop rfl]
        show 3 * (c.rangeInBins - (i.exact + 1)) + 3 < _
        omega
  · rw [turnFor_over _ (by omega)]
    refine ⟨⟨h.used, h.calls_le, .inl c.toNat_endBin⟩, ?_⟩
    rw [toGo_returned_end rfl c.toNat_endBin]
    omega

/-- Each step keeps the invariant, and there is less to go after it. -/
theorem indexInv_step (h : c.IndexInv locate s) (hgo : ¬ s.Halted locate) :
    c.IndexInv locate (c.step (sweep f c.rangeInBins) locate s) ∧
      c.toGo (c.step (sweep f c.rangeInBins) locate s) < c.toGo s := by
  cases hc : s.control with
  | whileLoop =>
    by_cases hend : s.peakBin.value.toNat = c.rangeInBins
    · rw [step_whileLoop_end _ hc hend]
      refine ⟨⟨h.used, h.calls_le, trivial⟩, ?_⟩
      rw [toGo_whileLoop_end hc hend]
      exact Nat.one_pos
    · rw [step_whileLoop _ hc hend]
      exact indexInv_callFindPeakBin h hc hend
  | forLoop i =>
    rw [step_forLoop _ hc]
    exact indexInv_turnFor h hc
  | returned p =>
    rw [step_returned _ hc]
    by_cases hend : p.value.toNat = c.rangeInBins
    · exact indexInv_afterCall_end h hc hend
    · exact indexInv_afterCall_peak h hc hend
  | ended => exact absurd (.inl hc) hgo
  | fault e =>
    have hplace := h.place
    rw [hc] at hplace
    exact absurd (.inr ⟨e, hc, hplace⟩) hgo

theorem step_halted (data : List α) (h : s.Halted locate) : c.step data locate s = s := by
  unfold step
  rcases h with hc | ⟨e, hc, -⟩
  · rw [hc]
  · rw [hc]

theorem indexInv_stateAfter (c : Scan α) (f : Nat → α) (locate : Nat → Except Fault (Option ρ))
    (n : Nat) : c.IndexInv locate (c.stateAfter f locate n) := by
  refine Function.Iterate.rec (c.IndexInv locate) (c.indexInv_start locate) ?_ n
  intro s h
  by_cases hhalted : s.Halted locate
  · rwa [step_halted _ hhalted]
  · exact (indexInv_step h hhalted).1

/-- The search comes to an end. -/
theorem exists_halted (c : Scan α) (f : Nat → α) (locate : Nat → Except Fault (Option ρ)) :
    ∃ n, (c.stateAfter f locate n).Halted locate :=
  Iterate.exists_goal (c.IndexInv locate) (State.Halted locate) c.toGo
    (fun _ h hgo => .inr (indexInv_step h hgo)) (c.indexInv_start locate)

/-- The loop of `find_peak_bin` that is running comes to a `return`. -/
theorem exists_returned {i : Index} (h : c.IndexInv locate s) (hc : s.control = .forLoop i) :
    ∃ n p, ((c.step (sweep f c.rangeInBins) locate)^[n] s).control = .returned p := by
  refine Iterate.exists_goal (fun s => c.IndexInv locate s ∧ ∃ i, s.control = .forLoop i)
    (fun s => ∃ p, s.control = .returned p) c.toGo ?_ ⟨h, i, hc⟩
  rintro t ⟨ht, j, hj⟩ -
  have hnext := indexInv_turnFor (f := f) ht hj
  rw [step_forLoop _ hj]
  by_cases hfits : j.value.toNat + c.binsToOperateOn ≤ c.rangeInBins
  · rcases turnFor_cases f hfits with ⟨awaitingRise, hreports | hpasses⟩
    · refine .inl ⟨j, ?_⟩
      rw [hreports]
    · refine .inr ⟨⟨hnext.1, j.add 1, ?_⟩, hnext.2⟩
      rw [hpasses]
  · refine .inl ⟨c.endBin, ?_⟩
    rw [turnFor_over _ (by omega)]

/-- **The search ends, and no index that it uses has wrapped around.** It ends, unless what
    becomes of a peak is a fault; it calls `find_peak_bin` once for each window in the range at
    most, and once more; each loop of `find_peak_bin` comes to a `return`; and no index that data
    is read at, or that a scan starts from, has wrapped around. -/
theorem peakSearch_terminates (c : Scan α) (f : Nat → α)
    (locate : Nat → Except Fault (Option ρ)) :
    (∃ n, (c.stateAfter f locate n).Halted locate) ∧
      (∀ n, (c.stateAfter f locate n).calls ≤ c.rangeInBins / c.binsToOperateOn + 1) ∧
      (∀ n i, (c.stateAfter f locate n).control = .forLoop i →
        ∃ m p, (c.stateAfter f locate (n + m)).control = .returned p) ∧
      ∀ n, ∀ i ∈ (c.stateAfter f locate n).used, ¬ i.Wrapped := by
  refine ⟨c.exists_halted f locate, fun n => (c.indexInv_stateAfter f locate n).calls_le, ?_,
    fun n => (c.indexInv_stateAfter f locate n).used⟩
  intro n i hc
  obtain ⟨m, p, hp⟩ := exists_returned (f := f) (c.indexInv_stateAfter f locate n) hc
  refine ⟨m, p, ?_⟩
  unfold stateAfter at hp ⊢
  rwa [Nat.add_comm, Function.iterate_add_apply]

end Invariant

end Scan

end PeakFinder

end Navtech
