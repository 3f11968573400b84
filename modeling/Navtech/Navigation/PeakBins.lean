/-
  The bins that a search for peaks returns.

  They are peaks, in ascending order and more than a window apart (`findPeaks_bins`): a scan
  behind a report cannot report its first bin, since it awaits a rise there and the bin must
  fall. For the same reason the search misses some peaks. The samples rise to the last bin of
  the window that has been jumped over, say, and fall from the next one; the scan that begins
  there has not seen the rise. A peak that lies a window or more behind the last bin returned is
  itself returned exactly if it lies further behind than that (`returned_iff`).
-/
import Mathlib.Data.List.Pairwise
import Navtech.Navigation.PeakScan

namespace Navtech

namespace PeakFinder

namespace Scan

open CheckedView (Succeeds)

variable {α ρ : Type} {c : Scan α} {s s' : Search ρ}

/-! ## The fields after a turn -/

theorem take_bins (s : Search ρ) (p : Nat) (target : Option ρ) :
    (c.take s p target).bins = s.bins ++ [p] := by
  cases target <;> rfl

theorem take_scan (s : Search ρ) (p : Nat) (target : Option ρ) :
    (c.take s p target).peakBin = s.peakBin ∧
      (c.take s p target).minBinToOperateUpon = s.minBinToOperateUpon ∧
      (c.take s p target).awaitingRise = s.awaitingRise := by
  cases target <;> exact ⟨rfl, rfl, rfl⟩

theorem goesOn_peakBin (h : c.goesOn s = true) : s.peakBin ≠ c.rangeInBins := by
  unfold goesOn at h
  simpa using (Bool.and_eq_true_iff.mp h).2

theorem not_goesOn_ended (s : Search ρ) (awaits : Bool) :
    c.goesOn (c.limit (c.moveTo s c.rangeInBins awaits)) = false := by
  unfold goesOn limit moveTo
  simp

variable [LinearOrder α] {f : Nat → α} {locate : Nat → Except Fault (Option ρ)}

/-! ## What the turns keep -/

/-- Where the next scan begins, while the search goes on: at the first bin, or a window behind
    the last report and in wait for a rise. -/
inductive Resumes (c : Scan α) (s : Search ρ) : Prop where
  | fresh : s.bins = [] → s.minBinToOperateUpon = c.minBinToOperateOn → s.awaitingRise = false →
      Resumes c s
  | behind (p : Nat) : p ∈ s.bins → s.minBinToOperateUpon = p + c.binsToOperateOn →
      s.awaitingRise = true → Resumes c s

structure Inv (c : Scan α) (f : Nat → α) (s : Search ρ) : Prop where
  resumes : c.goesOn s = true → Resumes c s
  behind_all : c.goesOn s = true → ∀ p ∈ s.bins, p + c.binsToOperateOn ≤ s.minBinToOperateUpon
  from_min : ∀ p ∈ s.bins, c.minBinToOperateOn ≤ p
  fits : ∀ p ∈ s.bins, p + c.binsToOperateOn ≤ c.rangeInBins
  peak : ∀ p ∈ s.bins, IsPeak c.threshold f p
  no_fall : ∀ p ∈ s.bins, p ≠ c.minBinToOperateOn → f (p - 1) ≤ f p
  apart : s.bins.Pairwise fun p q => p + c.binsToOperateOn < q

/-- Behind a window, a scan does not report its first bin. -/
theorem NextPeak.lt_of_awaiting {p : Nat} (hp : c.NextPeak f s p) (ha : s.awaitingRise = true) :
    s.minBinToOperateUpon < p := by
  refine lt_of_le_of_ne hp.from_start fun heq => hp.fires.2 ⟨ha, fun r hr hrp => ?_⟩
  have hr : r = p := by omega
  rw [hr]
  exact hp.fires.1.2

/-- The sample before a peak that the scan has looked at is not higher. -/
theorem NextPeak.no_fall {p : Nat} (hp : c.NextPeak f s p) (hlt : s.minBinToOperateUpon < p) :
    f (p - 1) ≤ f p := by
  by_contra hfall
  rw [not_le] at hfall
  have hstep : p - 1 + 1 = p := by omega
  have hpeak : IsPeak c.threshold f (p - 1) := by
    refine ⟨hp.fires.1.1.trans hfall, ?_⟩
    rwa [hstep]
  refine hp.first (p - 1) (by omega) (by omega)
    ⟨hpeak, fun h => hp.fires.2 ⟨h.1, fun r hr hrp => ?_⟩⟩
  rcases Nat.eq_or_lt_of_le hrp with rfl | hbefore
  · exact hp.fires.1.2
  · exact h.2 r hr (by omega)

theorem inv_start : Inv c f (c.start : Search ρ) where
  resumes _ := .fresh rfl rfl rfl
  behind_all _ _ h := nomatch h
  from_min _ h := nomatch h
  fits _ h := nomatch h
  peak _ h := nomatch h
  no_fall _ h := nomatch h
  apart := .nil

/-- Behind a peak the next scan begins right after its window: the sum does not wrap. -/
theorem NextPeak.minBin_take {p : Nat} (hp : c.NextPeak f s p) (target : Option ρ) :
    (c.take (c.moveTo s p true) p target).minBinToOperateUpon = p + c.binsToOperateOn := by
  obtain ⟨-, hmin, -⟩ := take_scan (c := c) (c.moveTo s p true) p target
  exact hmin.trans (Nat.mod_eq_of_lt (lt_of_le_of_lt hp.fits c.rangeInBins_lt))

theorem inv_found (h : Inv c f s) (hs : c.goesOn s = true) {p : Nat} (hp : c.NextPeak f s p)
    (target : Option ρ) : Inv c f (c.take (c.moveTo s p true) p target) := by
  obtain ⟨-, -, hawait⟩ := take_scan (c := c) (c.moveTo s p true) p target
  have hbins : (c.take (c.moveTo s p true) p target).bins = s.bins ++ [p] := take_bins _ _ _
  have hmin := hp.minBin_take target
  have hall {P : Nat → Prop} (hold : ∀ q ∈ s.bins, P q) (hnew : P p) :
      ∀ q ∈ (c.take (c.moveTo s p true) p target).bins, P q := by
    rw [hbins]
    exact List.forall_mem_append.mpr ⟨hold, List.forall_mem_singleton.mpr hnew⟩
  have hbefore : ∀ q ∈ s.bins, q + c.binsToOperateOn < p := by
    intro q hq
    have hq' := h.behind_all hs q hq
    cases h.resumes hs with
    | fresh hnil => exact absurd hq (by rw [hnil]; exact List.not_mem_nil)
    | behind _ _ _ ha => exact lt_of_le_of_lt hq' (hp.lt_of_awaiting ha)
  refine ⟨fun _ => ?_, fun _ => ?_, hall h.from_min ?_, hall h.fits hp.fits, hall h.peak hp.fires.1,
    hall h.no_fall ?_, ?_⟩
  · refine .behind p ?_ hmin hawait
    rw [hbins]
    exact List.mem_append_right _ (List.mem_singleton_self p)
  · rw [hmin]
    refine hall (fun q hq => ?_) le_rfl
    exact Nat.add_le_add_right ((Nat.le_add_right _ _).trans (hbefore q hq).le) _
  · cases h.resumes hs with
    | fresh _ hmin => exact hmin ▸ hp.from_start
    | behind q hq _ _ =>
      exact (h.from_min q hq).trans ((Nat.le_add_right _ _).trans (hbefore q hq).le)
  · intro hne
    refine hp.no_fall (lt_of_le_of_ne hp.from_start ?_)
    cases h.resumes hs with
    | fresh _ hmin =>
      rw [hmin]
      exact hne.symm
    | behind _ _ _ ha => exact (hp.lt_of_awaiting ha).ne
  · rw [hbins]
    refine List.pairwise_append.mpr ⟨h.apart, List.pairwise_singleton _ _, fun q hq r hr => ?_⟩
    rw [List.mem_singleton.mp hr]
    exact hbefore q hq

theorem inv_trip (h : Inv c f s) (hs : c.goesOn s = true)
    (htrip : c.trip (sweep f c.rangeInBins) locate s = .ok s') : Inv c f s' := by
  cases trip_cases htrip with
  | ended awaits _ =>
    have hover := not_goesOn_ended (c := c) s awaits
    refine ⟨fun hgoes => ?_, fun hgoes => ?_, h.from_min, h.fits, h.peak, h.no_fall, h.apart⟩
    · exact absurd (hgoes.symm.trans hover) (by decide)
    · exact absurd (hgoes.symm.trans hover) (by decide)
  | found p target hp _ => exact inv_found h hs hp target

theorem findPeaks_inv (h : c.findPeaks (sweep f c.rangeInBins) locate = .ok s) : Inv c f s :=
  Loop.turns_invariant (fun hI hs htrip => inv_trip hI hs htrip) inv_start h

/-- No bin lies right behind the window of another. -/
theorem Inv.not_adjacent (h : Inv c f s) {p q : Nat} (hp : p ∈ s.bins) (hq : q ∈ s.bins) :
    p + c.binsToOperateOn ≠ q := by
  have hfive := c.five_le
  have hsymm : Std.Symm fun p q => p + c.binsToOperateOn ≠ q ∧ q + c.binsToOperateOn ≠ p :=
    ⟨fun _ _ h => h.symm⟩
  have hapart : s.bins.Pairwise fun p q =>
      p + c.binsToOperateOn ≠ q ∧ q + c.binsToOperateOn ≠ p :=
    h.apart.imp fun hlt => ⟨hlt.ne, by omega⟩
  exact (hapart.forall_of_forall (fun p _ => ⟨by omega, by omega⟩) hp hq).1

/-! ## The bins are peaks -/

/-- Peaks in ascending order, a window apart at least, inside the sweep. Only the first bin of
    all may be lower than the sample before it. -/
structure PeakBins (c : Scan α) (f : Nat → α) (bins : List Nat) : Prop where
  from_min : ∀ p ∈ bins, c.minBinToOperateOn ≤ p
  apart : bins.Pairwise fun p q => p + c.binsToOperateOn ≤ q
  fits : ∀ p ∈ bins, p + c.binsToOperateOn ≤ c.rangeInBins
  above : ∀ p ∈ bins, c.threshold < f p
  falls : ∀ p ∈ bins, f (p + 1) < f p
  no_fall : ∀ p ∈ bins, p ≠ c.minBinToOperateOn → f (p - 1) ≤ f p

/-- With a `locate` that reads nothing it should not, the search comes to its end. -/
theorem succeeds_findPeaks (c : Scan α) (f : Nat → α) (hlocate : ∀ p, Succeeds (locate p)) :
    Succeeds (c.findPeaks (sweep f c.rangeInBins) locate) := by
  refine Loop.turns_succeeds (I := fun _ => True) ?_ _ trivial
  intro s _ _
  obtain ⟨s', hs'⟩ := succeeds_trip.mpr fun p (_ : c.NextPeak f s p) => hlocate p
  exact ⟨s', hs', trivial⟩

/-- **Every bin returned is a peak**, whatever comes of the targets. -/
theorem findPeaks_bins (c : Scan α) (f : Nat → α) (target : Nat → Option ρ) :
    ∃ s, c.findPeaks (sweep f c.rangeInBins) (fun p => .ok (target p)) = .ok s ∧
      PeakBins c f s.bins := by
  obtain ⟨s, hs⟩ := succeeds_findPeaks c f fun p => (⟨_, rfl⟩ : Succeeds (.ok (target p)))
  have h := findPeaks_inv hs
  exact ⟨s, hs, h.from_min, h.apart.imp fun hlt => hlt.le, h.fits, fun p hp => (h.peak p hp).1,
    fun p hp => (h.peak p hp).2, h.no_fall⟩

/-! ## The targets -/

/-- The targets come from the bins that have been returned, and are counted. -/
structure TargetsOf (locate : Nat → Except Fault (Option ρ)) (s : Search ρ) : Prop where
  mem_iff : ∀ t, t ∈ s.targets ↔ ∃ p ∈ s.bins, locate p = .ok (some t)
  located : ∀ p ∈ s.bins, ∃ target, locate p = .ok target
  counted : s.peaksFound = s.targets.length

theorem targetsOf_trip (h : TargetsOf locate s)
    (htrip : c.trip (sweep f c.rangeInBins) locate s = .ok s') : TargetsOf locate s' := by
  cases trip_cases htrip with
  | ended awaits _ => exact ⟨h.mem_iff, h.located, h.counted⟩
  | found p target _ hlocate =>
    have hlocated : ∀ q ∈ s.bins ++ [p], ∃ target, locate q = .ok target :=
      List.forall_mem_append.mpr ⟨h.located, List.forall_mem_singleton.mpr ⟨target, hlocate⟩⟩
    have hlast (t : ρ) : (∃ q ∈ s.bins ++ [p], locate q = .ok (some t)) ↔
        (∃ q ∈ s.bins, locate q = .ok (some t)) ∨ target = some t := by
      simp [List.mem_append, or_and_right, exists_or, hlocate]
    cases target with
    | none =>
      refine ⟨fun t => ?_, hlocated, h.counted⟩
      show t ∈ s.targets ↔ ∃ q ∈ s.bins ++ [p], locate q = .ok (some t)
      rw [hlast t, h.mem_iff t]
      simp
    | some t' =>
      refine ⟨fun t => ?_, hlocated, ?_⟩
      · show t ∈ s.targets ++ [t'] ↔ ∃ q ∈ s.bins ++ [p], locate q = .ok (some t)
        rw [hlast t, List.mem_append, h.mem_iff t]
        simp [eq_comm]
      · show s.peaksFound + 1 = (s.targets ++ [t']).length
        rw [h.counted, List.length_append, List.length_singleton]

theorem findPeaks_targets (h : c.findPeaks (sweep f c.rangeInBins) locate = .ok s) :
    TargetsOf locate s := by
  refine Loop.turns_invariant (fun hI _ htrip => targetsOf_trip hI htrip) ?_ h
  refine ⟨fun t => ?_, fun _ hp => absurd hp List.not_mem_nil, rfl⟩
  exact iff_of_false List.not_mem_nil fun h => nomatch h.choose_spec.1

/-! ## Peaks that are missed -/

/-- A peak inside the sweep, higher than both samples next to it. -/
structure Summit (c : Scan α) (f : Nat → α) (q : Nat) : Prop where
  after_min : c.minBinToOperateOn < q
  fits : q + c.binsToOperateOn ≤ c.rangeInBins
  above : c.threshold < f q
  rises : f (q - 1) < f q
  falls : f (q + 1) < f q

/-- The search was stopped by the limit before it came to `q`. -/
def StoppedBefore (c : Scan α) (s : Search ρ) (q : Nat) : Prop :=
  s.stopped = true ∧ s.peakBin ≠ c.rangeInBins ∧ ∀ p ∈ s.bins, p < q

/-- The search has come to `q`. -/
def Reached (c : Scan α) (s : Search ρ) (q : Nat) : Prop :=
  s.peakBin = c.rangeInBins ∨ ∃ p ∈ s.bins, q ≤ p

/-- The summits that the search has come to have been returned, or lie in a window that has been
    jumped over, or right behind it. -/
def Covers (c : Scan α) (f : Nat → α) (s : Search ρ) : Prop :=
  ∀ q, Summit c f q → Reached c s q →
    q ∈ s.bins ∨ ∃ p ∈ s.bins, p < q ∧ q ≤ p + c.binsToOperateOn

/-- A summit that the next scan passes over without a report. -/
theorem covered_of_not_fires (h : Inv c f s) (hs : c.goesOn s = true) {q : Nat}
    (hq : Summit c f q) (hnot : s.minBinToOperateUpon ≤ q → ¬ c.FiresNext f s q)
    (hnew : ∀ p ∈ s.bins, p < q) : ∃ p ∈ s.bins, p < q ∧ q ≤ p + c.binsToOperateOn := by
  have hrise : s.minBinToOperateUpon < q → c.FiresNext f s q := by
    intro hlt
    refine fires_of_rise ⟨hq.above, hq.falls⟩ (show s.minBinToOperateUpon ≤ q - 1 by omega)
      (Nat.sub_le q 1) ?_
    rw [Nat.sub_add_cancel (by omega)]
    exact not_lt.mpr hq.rises.le
  have hle : q ≤ s.minBinToOperateUpon := by
    by_contra hlt
    exact hnot (by omega) (hrise (by omega))
  cases h.resumes hs with
  | fresh _ hmin _ =>
    have hafter := hq.after_min
    omega
  | behind p hp hmin _ => exact ⟨p, hp, hnew p hp, hmin ▸ hle⟩

theorem covers_trip (h : Inv c f s) (hcovers : Covers c f s) (hs : c.goesOn s = true)
    (htrip : c.trip (sweep f c.rangeInBins) locate s = .ok s') : Covers c f s' := by
  intro q hq hreached
  by_cases hold : ∃ p ∈ s.bins, q ≤ p
  · -- the search had come to the summit before this turn
    have hmem := hcovers q hq (.inr hold)
    cases trip_cases htrip with
    | ended awaits _ => exact hmem
    | found p target _ _ =>
      rw [take_bins]
      rcases hmem with hmem | ⟨p', hp', hwindow⟩
      · exact .inl (List.mem_append_left _ hmem)
      · exact .inr ⟨p', List.mem_append_left _ hp', hwindow⟩
  · have hnew : ∀ p ∈ s.bins, p < q := by
      intro p hp
      by_contra hle
      exact hold ⟨p, hp, not_lt.mp hle⟩
    cases trip_cases htrip with
    | ended awaits hnone =>
      exact .inr (covered_of_not_fires h hs hq (fun hmin => hnone q hmin hq.fits) hnew)
    | found p target hp _ =>
      unfold Reached at hreached
      rw [take_bins] at hreached ⊢
      have hqp : q ≤ p := by
        rcases hreached with hend | ⟨p', hp', hle⟩
        · have hpeak : (c.take (c.moveTo s p true) p target).peakBin = p := (take_scan _ _ _).1
          have hfits := hp.fits
          have hfive := c.five_le
          omega
        · rcases List.mem_append.mp hp' with hp' | hp'
          · exact absurd hle (not_le.mpr (hnew p' hp'))
          · rwa [List.mem_singleton.mp hp'] at hle
      rcases Nat.eq_or_lt_of_le hqp with rfl | hlt
      · exact .inl (List.mem_append_right _ (List.mem_singleton_self q))
      · obtain ⟨p', hp', hwindow⟩ :=
          covered_of_not_fires h hs hq (fun hmin => hp.first q hmin hlt) hnew
        exact .inr ⟨p', List.mem_append_left _ hp', hwindow⟩

theorem findPeaks_covers (h : c.findPeaks (sweep f c.rangeInBins) locate = .ok s) :
    Covers c f s := by
  have hstart : Inv c f (c.start : Search ρ) ∧ Covers c f (c.start : Search ρ) := by
    refine ⟨inv_start, fun q hq hreached => ?_⟩
    rcases hreached with hend | ⟨_, hp, _⟩
    · have hfits := hq.fits
      have hfive := c.five_le
      have hzero : 0 = c.rangeInBins := hend
      omega
    · exact nomatch hp
  exact (Loop.turns_invariant (I := fun s => Inv c f s ∧ Covers c f s)
    (fun hI hs htrip => ⟨inv_trip hI.1 hs htrip, covers_trip hI.1 hI.2 hs htrip⟩) hstart h).2

/-- How far the search still has to go. -/
def remaining (c : Scan α) (s : Search ρ) : Nat :=
  if s.peakBin = c.rangeInBins then 0 else c.rangeInBins - s.minBinToOperateUpon + 1

theorem remaining_trip (hs : c.goesOn s = true)
    (htrip : c.trip (sweep f c.rangeInBins) locate s = .ok s') :
    c.remaining s' < c.remaining s := by
  have hbefore : c.remaining s = c.rangeInBins - s.minBinToOperateUpon + 1 :=
    if_neg (goesOn_peakBin hs)
  rw [hbefore]
  cases trip_cases htrip with
  | ended awaits _ =>
    have hafter : c.remaining (c.limit (c.moveTo s c.rangeInBins awaits)) = 0 := if_pos rfl
    omega
  | found p target hp _ =>
    have hfits := hp.fits
    have hfrom := hp.from_start
    have hfive := c.five_le
    have hne : p ≠ c.rangeInBins := by omega
    obtain ⟨hpeak, -, -⟩ := take_scan (c := c) (c.moveTo s p true) p target
    unfold remaining
    rw [hpeak, hp.minBin_take, if_neg (show (c.moveTo s p true).peakBin ≠ c.rangeInBins from hne)]
    omega

/-- The turns are enough. -/
theorem findPeaks_ended (h : c.findPeaks (sweep f c.rangeInBins) locate = .ok s) :
    c.goesOn s = false := by
  refine Loop.turns_ended (I := fun _ => True) (m := c.remaining)
    (fun _ hs htrip => ⟨trivial, remaining_trip hs htrip⟩) trivial ?_ h
  unfold remaining
  split <;> omega

/-- **A summit is returned exactly if it does not lie right behind a window.** It lies a window
    or more behind the last bin returned, if any, and the limit has not stopped the search
    before. -/
theorem returned_iff (h : c.findPeaks (sweep f c.rangeInBins) locate = .ok s) {q : Nat}
    (hq : Summit c f q) (hdistance : ∀ p ∈ s.bins, p < q → p + c.binsToOperateOn ≤ q)
    (hstopped : ¬ c.StoppedBefore s q) :
    q ∈ s.bins ↔ ∀ p ∈ s.bins, p + c.binsToOperateOn ≠ q := by
  have hinv := findPeaks_inv h
  constructor
  · intro hmem p hp
    exact hinv.not_adjacent hp hmem
  · intro hbehind
    have hreached : Reached c s q := by
      by_contra hnot
      have hend : s.peakBin ≠ c.rangeInBins := fun hend => hnot (.inl hend)
      refine hstopped ⟨?_, hend, fun p hp => ?_⟩
      · have hover := findPeaks_ended h
        unfold goesOn at hover
        simpa [hend] using hover
      · by_contra hle
        exact hnot (.inr ⟨p, hp, not_lt.mp hle⟩)
    rcases findPeaks_covers h q hq hreached with hmem | ⟨p, hp, hlt, hle⟩
    · exact hmem
    · exact absurd (Nat.le_antisymm (hdistance p hp hlt) hle) (hbehind p hp)

/-- A window of five bins on a sweep of thirteen. -/
def fiveOfThirteen : Scan Nat where
  threshold := 5
  binsToOperateOn := 5
  minBinToOperateOn := 1
  maxPeaksPerAzimuth := 10
  rangeInBins := 13
  five_le := by decide
  le_fifteen := by decide
  minBin_lt := by decide
  rangeInBins_lt := by decide

/-- Two samples stand out. -/
def twoPeaks (p q : Nat) (bin : Nat) : Nat := if bin = p ∨ bin = q then 9 else 0

theorem returned_beyond : ∃ s : Search Nat,
    fiveOfThirteen.findPeaks (sweep (twoPeaks 2 8) 13) (fun p => .ok (some p)) = .ok s ∧
      8 ∈ s.bins := by
  have hrun : fiveOfThirteen.findPeaks (sweep (twoPeaks 2 8) 13) (fun p => .ok (some p)) =
      .ok ⟨13, true, 18, 2, [2, 8], false, [2, 8]⟩ := rfl
  have hsummit : Summit fiveOfThirteen (twoPeaks 2 8) 8 := by
    constructor <;> decide
  refine ⟨_, hrun, (returned_iff hrun hsummit (by decide) ?_).mpr (by decide)⟩
  intro h
  exact nomatch h.1

/-- The second peak is five bins from the first. -/
theorem not_returned_behind : ∃ s : Search Nat,
    fiveOfThirteen.findPeaks (sweep (twoPeaks 2 7) 13) (fun p => .ok (some p)) = .ok s ∧
      Summit fiveOfThirteen (twoPeaks 2 7) 7 ∧
      (∀ p ∈ s.bins, p < 7 → p + fiveOfThirteen.binsToOperateOn ≤ 7) ∧
      ¬ fiveOfThirteen.StoppedBefore s 7 ∧ 7 ∉ s.bins := by
  refine ⟨⟨13, false, 18, 1, [2], false, [2]⟩, rfl, ?_, by decide, ?_, by decide⟩
  · constructor <;> decide
  · intro h
    exact nomatch h.1

end Scan

end PeakFinder

end Navtech
