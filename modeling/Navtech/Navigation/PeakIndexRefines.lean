/-
  The machine with 16-bit indices carries out the search that counts in natural numbers.

  Where `find_peaks` of `PeakScan` yields targets, the machine of `PeakIndex` ends with these
  targets (`stateAfter_of_ok`), and where it yields a fault the machine stops with that fault
  (`stateAfter_of_error`). So what is shown of the search in natural numbers holds of the
  machine. A turn of the `while` loop of one stands for a turn of the other (`performs_trip`), and
  so does a turn of the `for` loop (`performs_scanBins`). Between the turns of the `while` loop
  the variables of the two agree (`Matches`).
-/
import Navtech.Navigation.PeakBins
import Navtech.Navigation.PeakIndex

namespace Navtech

namespace PeakFinder

namespace Scan

open Iterate

variable {α ρ : Type} {c : Scan α} {data : List α} {locate : Nat → Except Fault (Option ρ)}
  {s : State ρ} {t : Search ρ}

/-- The machine has stopped with the fault. -/
def Faulted (e : Fault) (s : State ρ) : Prop := s.control = .fault e

/-- From `s`, a call of `find_peak_bin` has returned the bin and left `awaiting_rise`. -/
def Returned (s : State ρ) (r : Nat × Bool) (s' : State ρ) : Prop :=
  ∃ p used calls, p.value.toNat = r.1 ∧ s' = { s with
    control := .returned p, awaitingRise := r.2, used := used, calls := calls }

/-- The machine is between two turns of the `while` loop, or behind it. -/
structure Matches (t : Search ρ) (s : State ρ) : Prop where
  control : s.control = if t.stopped then .ended else .whileLoop
  peakBin : s.peakBin.value.toNat = t.peakBin
  awaitingRise : s.awaitingRise = t.awaitingRise
  minBin : s.minBinToOperateUpon.value.toNat = t.minBinToOperateUpon
  peaksFound : s.peaksFound = t.peaksFound
  targets : s.targets = t.targets

theorem matches_start (c : Scan α) : Matches (c.start : Search ρ) c.startState where
  control := rfl
  peakBin := rfl
  awaitingRise := rfl
  minBin := UInt16.toNat_ofNat_of_lt c.minBin_lt
  peaksFound := rfl
  targets := rfl

/-- What a call has returned goes into the variables of both. -/
theorem matches_moveTo (h : Matches t s) (hgo : t.stopped = false) {p : Index} {peakBin : Nat}
    (hp : p.value.toNat = peakBin) (awaitingRise : Bool) (used : List Index) (calls : Nat) :
    Matches (c.moveTo t peakBin awaitingRise) { s with
      control := .whileLoop
      peakBin := p
      awaitingRise := awaitingRise
      minBinToOperateUpon := p.add c.binsToOperateOn
      used := used
      calls := calls } where
  control := by
    show Control.whileLoop = if t.stopped then .ended else .whileLoop
    rw [hgo]
    rfl
  peakBin := hp
  awaitingRise := rfl
  minBin := by
    show (UInt16.ofNat (p.value.toNat + c.binsToOperateOn)).toNat =
      (peakBin + c.binsToOperateOn) % 2 ^ 16
    rw [hp, UInt16.toNat_ofNat']
  peaksFound := h.peaksFound
  targets := h.targets

theorem matches_testLimit (h : Matches t s) : Matches (c.limit t) (c.testLimit s) := by
  by_cases hlimit : c.maxPeaksPerAzimuth ≤ t.peaksFound
  · have hs : c.testLimit s = { s with control := .ended } := if_pos (h.peaksFound.symm ▸ hlimit)
    have ht : c.limit t = { t with stopped := true } := by
      unfold limit
      rw [decide_eq_true hlimit]
    rw [hs, ht]
    exact { h with control := rfl }
  · have hs : c.testLimit s = { s with control := .whileLoop } :=
      if_neg (h.peaksFound.symm ▸ hlimit)
    have ht : c.limit t = { t with stopped := false } := by
      unfold limit
      rw [decide_eq_false hlimit]
    rw [hs, ht]
    exact { h with control := rfl }

/-- What becomes of a peak goes into the targets of both. -/
theorem matches_take (h : Matches t s) (peakBin : Nat) (target : ρ) :
    Matches (c.take t peakBin (some target)) (c.testLimit { s with
      targets := s.targets ++ [target], peaksFound := s.peaksFound + 1 }) := by
  have hbefore : Matches { t with
      bins := t.bins ++ [peakBin]
      targets := t.targets ++ [target]
      peaksFound := t.peaksFound + 1 } { s with
      targets := s.targets ++ [target], peaksFound := s.peaksFound + 1 } :=
    { h with
      targets := by rw [h.targets]
      peaksFound := by rw [h.peaksFound] }
  exact matches_testLimit hbefore

variable [LT α] [DecidableLT α]

/-! ## One call of `find_peak_bin` -/

/-- A turn of the scan that counts in natural numbers is a look at its bin. -/
theorem scanBins_succ_lookAt (threshold : α) (data : List α) (endBin n peakBin : Nat)
    (awaitingRise : Bool) :
    scanBins threshold data endBin (n + 1) peakBin awaitingRise =
      lookAt threshold data peakBin awaitingRise >>= fun r =>
        if r.1 then .ok (peakBin, r.2) else scanBins threshold data endBin n (peakBin + 1) r.2 := by
  conv => lhs; unfold scanBins
  unfold lookAt
  cases andThen awaitingRise (falls data peakBin) with
  | error e => rfl
  | ok waits =>
    cases waits with
    | true => rfl
    | false =>
      cases exceeds threshold data peakBin with
      | error e => rfl
      | ok above =>
        cases hpeak : andThen above (falls data peakBin) with
        | error e =>
          dsimp only [bind, Except.bind, pure, Except.pure]
          rw [if_neg Bool.false_ne_true, if_neg Bool.false_ne_true, hpeak]
        | ok peak =>
          dsimp only [bind, Except.bind, pure, Except.pure]
          rw [if_neg Bool.false_ne_true, if_neg Bool.false_ne_true, hpeak]
          cases peak with
          | true => rfl
          | false => rfl

theorem performs_scanBins (n : Nat) {s : State ρ} {i : Index} (hc : s.control = .forLoop i)
    (hn : i.value.toNat + n + c.binsToOperateOn = c.rangeInBins + 1) :
    Performs (c.step data locate) Faulted (Returned s) s
      (scanBins c.threshold data c.rangeInBins n i.value.toNat s.awaitingRise) := by
  have hfive := c.five_le
  have hlt16 := c.rangeInBins_lt
  induction n generalizing s i with
  | zero =>
    refine .of_step ?_
    rw [step_forLoop data hc, turnFor_over data (by omega)]
    exact .ok ⟨c.endBin, s.used, s.calls, c.toNat_endBin, rfl⟩
  | succ n ih =>
    rw [scanBins_succ_lookAt]
    refine .of_step ?_
    rw [step_forLoop data hc]
    cases hlook : lookAt c.threshold data i.value.toNat s.awaitingRise with
    | error e =>
      rw [turnFor_fault (by omega) hlook]
      exact .error rfl
    | ok r =>
      obtain ⟨reports, awaitingRise⟩ := r
      cases reports with
      | true =>
        rw [turnFor_reports (by omega) hlook]
        exact .ok ⟨i, _, _, rfl, rfl⟩
      | false =>
        have hval : (i.add 1).value.toNat = i.value.toNat + 1 :=
          UInt16.toNat_ofNat_of_lt (show i.value.toNat + 1 < 2 ^ 16 by omega)
        have hrest := @ih { s with
          control := .forLoop (i.add 1), awaitingRise := awaitingRise, used := i :: s.used }
          (i.add 1) rfl (by omega)
        rw [hval] at hrest
        rw [turnFor_passes (by omega) hlook]
        exact hrest

theorem performs_findPeakBin (hc : s.control = .whileLoop)
    (hgo : s.peakBin.value.toNat ≠ c.rangeInBins) :
    Performs (c.step data locate) Faulted (Returned s) s
      (findPeakBin c.threshold data s.minBinToOperateUpon.value.toNat c.rangeInBins
        c.binsToOperateOn s.awaitingRise) := by
  refine .of_step ?_
  rw [step_whileLoop data hc hgo]
  unfold callFindPeakBin findPeakBin
  by_cases hover : (c.rangeInBins : Int) - c.binsToOperateOn < s.minBinToOperateUpon.value.toNat
  · rw [if_pos hover]
    dsimp only
    rw [if_pos hover]
    exact .ok ⟨c.endBin, _, _, c.toNat_endBin, rfl⟩
  · rw [if_neg hover]
    dsimp only
    rw [if_neg hover]
    exact performs_scanBins (s := { s with
      control := .forLoop s.minBinToOperateUpon
      calls := s.calls + 1
      used := s.minBinToOperateUpon :: s.used }) _ rfl (by omega)

/-! ## One turn of the loop of `find_peaks` -/

theorem performs_trip (h : Matches t s) (hgo : c.goesOn t = true) :
    Performs (c.step data locate) Faulted Matches s (c.trip data locate t) := by
  have hrunning : t.stopped = false := by
    simpa using (Bool.and_eq_true_iff.mp hgo).1
  have hc : s.control = .whileLoop := by
    rw [h.control, hrunning]
    rfl
  have hne : s.peakBin.value.toNat ≠ c.rangeInBins := by
    rw [h.peakBin]
    exact goesOn_peakBin hgo
  unfold trip
  rw [← h.minBin, ← h.awaitingRise]
  refine (performs_findPeakBin hc hne).bind ?_
  rintro ⟨peakBin, awaitingRise⟩ _ ⟨p, used, calls, hp, rfl⟩
  refine .of_step ?_
  rw [step_returned data rfl]
  unfold afterCall
  dsimp only at hp ⊢
  rw [hp]
  by_cases hlt : peakBin < c.rangeInBins
  · have hmove := matches_moveTo (c := c) h hrunning hp awaitingRise (p :: used) calls
    rw [if_pos hlt, if_pos hlt]
    cases locate peakBin with
    | error e => exact .error rfl
    | ok found =>
      cases found with
      | none => exact .ok { hmove with }
      | some target =>
        have htake := matches_take (c := c) hmove peakBin target
        exact .ok htake
  · rw [if_neg hlt, if_neg hlt]
    have hmove := matches_moveTo (c := c) h hrunning hp awaitingRise used calls
    have hlimit := matches_testLimit (c := c) hmove
    exact .ok hlimit

/-! ## The whole search -/

theorem performs_findPeaks (c : Scan α) (data : List α)
    (locate : Nat → Except Fault (Option ρ)) :
    Performs (c.step data locate) Faulted Matches c.startState (c.findPeaks data locate) :=
  .turns performs_trip _ (matches_start c)

/-- Where the search in natural numbers comes upon a fault, the machine stops with it. -/
theorem stateAfter_of_error {f : Nat → α} {e : Fault}
    (h : c.findPeaks (sweep f c.rangeInBins) locate = .error e) :
    ∃ n, (c.stateAfter f locate n).control = .fault e := by
  have hperforms := c.performs_findPeaks (sweep f c.rangeInBins) locate
  rw [h] at hperforms
  obtain ⟨s, ⟨n, rfl⟩, hfault⟩ := hperforms
  exact ⟨n, hfault⟩

/-- **The machine carries out the search.** It ends with the targets of the search that counts
    in natural numbers. -/
theorem stateAfter_of_ok {α : Type} [LinearOrder α] {c : Scan α} {f : Nat → α}
    (h : c.findPeaks (sweep f c.rangeInBins) locate = .ok t) :
    ∃ n, (c.stateAfter f locate n).control = .ended ∧
      (c.stateAfter f locate n).targets = t.targets ∧
      (c.stateAfter f locate n).peaksFound = t.peaksFound := by
  have hended := findPeaks_ended h
  have hperforms := c.performs_findPeaks (sweep f c.rangeInBins) locate
  rw [h] at hperforms
  obtain ⟨s, ⟨n, hn⟩, hmatches⟩ := hperforms
  cases hstopped : t.stopped with
  | true =>
    refine ⟨n, ?_⟩
    unfold stateAfter
    rw [hn, hmatches.control, hstopped]
    exact ⟨rfl, hmatches.targets, hmatches.peaksFound⟩
  | false =>
    -- the end marker has been returned, and the condition of the loop is still to be tested
    have hc : s.control = .whileLoop := by
      rw [hmatches.control, hstopped]
      rfl
    have hend : s.peakBin.value.toNat = c.rangeInBins := by
      rw [hmatches.peakBin]
      unfold goesOn at hended
      simpa [hstopped] using hended
    refine ⟨n + 1, ?_⟩
    unfold stateAfter
    rw [Function.iterate_succ_apply', hn, step_whileLoop_end _ hc hend]
    exact ⟨rfl, hmatches.targets, hmatches.peaksFound⟩

end Scan

end PeakFinder

end Navtech
