/-
  The targets of a search, as a function of the sweep.

  `reportedFrom` are the bins that scans come to, each from behind the window of the last
  report, with no limit on their number. The search makes a target of every one of them whose
  range is not rejected, in ascending order, until the limit is met (`findPeaks_reported`). So
  what `fft_data_handler` delivers without a buffer is a function of the settings and the sweep,
  and nothing of an earlier sweep is in it (`fftDataHandler_off`). Both hold however the ranges
  are computed and rejected.

  In exact numbers, a range that is not rejected lies within its bounds or is not a number. So
  all ranges that are delivered are plausible exactly if no window of the bins that the search
  comes to below its limit is degenerate (`delivered_plausible_iff`).
-/
import Mathlib.Data.List.Sort
import Navtech.Navigation.PeakBuffer
import Navtech.Navigation.PeakLimit

namespace Navtech

namespace PeakFinder

open CheckedView (Succeeds bind_eq_ok map_eq_ok)

namespace Scan

variable {α ρ : Type} [LinearOrder α] {c : Scan α} {f : Nat → α} {start p q : Nat} {awaits : Bool}

/-! ## The bins that the search comes to, in order -/

open Classical in
/-- The bins that scans from `start` on come to. -/
noncomputable def reportedFrom (c : Scan α) (f : Nat → α) (start : Nat) (awaits : Bool) :
    List Nat :=
  (List.range c.rangeInBins).filter fun p => c.ComesTo f start awaits p

/-- From the first bin of the search on, as `find_peaks` begins. -/
noncomputable def reported (c : Scan α) (f : Nat → α) : List Nat :=
  c.reportedFrom f c.minBinToOperateOn false

theorem mem_reportedFrom : q ∈ c.reportedFrom f start awaits ↔ c.ComesTo f start awaits q := by
  have hfive := c.five_le
  unfold reportedFrom
  simp only [List.mem_filter, List.mem_range, decide_eq_true_eq]
  refine and_iff_right_of_imp fun hq => ?_
  have hfits := hq.peak.2.1
  omega

theorem pairwise_reportedFrom (c : Scan α) (f : Nat → α) (start : Nat) (awaits : Bool) :
    (c.reportedFrom f start awaits).Pairwise (· < ·) :=
  List.pairwise_lt_range.filter _

theorem FirstFiring.unique (hp : c.FirstFiring f start awaits p)
    (hq : c.FirstFiring f start awaits q) : p = q := by
  rcases Nat.lt_trichotomy p q with hlt | heq | hlt
  · exact absurd hp.fires (hq.first p hp.from_start hlt)
  · exact heq
  · exact absurd hq.fires (hp.first q hq.from_start hlt)

theorem comesTo_iff (hp : c.FirstFiring f start awaits p) :
    c.ComesTo f start awaits q ↔ q = p ∨ c.ComesTo f (p + c.binsToOperateOn) true q := by
  constructor
  · intro h
    cases h with
    | first hq => exact .inl (hq.unique hp)
    | behind hr hq =>
      obtain rfl := hr.unique hp
      exact .inr hq
  · rintro (rfl | hq)
    · exact .first hp
    · exact .behind hp hq

/-- A scan that reports nothing is the last one. -/
theorem reportedFrom_eq_nil (hnone : ∀ q, ¬ c.FirstFiring f start awaits q) :
    c.reportedFrom f start awaits = [] := by
  refine List.eq_nil_iff_forall_not_mem.mpr fun q hq => ?_
  cases mem_reportedFrom.mp hq with
  | first hq => exact hnone _ hq
  | behind hr _ => exact hnone _ hr

/-- The first report, and those from behind its window. -/
theorem reportedFrom_cons (hp : c.FirstFiring f start awaits p) :
    c.reportedFrom f start awaits = p :: c.reportedFrom f (p + c.binsToOperateOn) true := by
  have hfive := c.five_le
  refine List.Pairwise.eq_of_mem_iff (pairwise_reportedFrom c f start awaits)
    (List.pairwise_cons.mpr ⟨fun q hq => ?_, pairwise_reportedFrom c f _ true⟩) fun q => ?_
  · have hfrom := (mem_reportedFrom.mp hq).peak.1
    omega
  · rw [List.mem_cons, mem_reportedFrom, mem_reportedFrom, comesTo_iff hp]

/-! ## The loop -/

variable {locate : Nat → Except Fault (Option ρ)} {s s' : Search ρ}

/-- **The targets of a search**: of the bins it comes to, those that make one, in order, as many
    as the limit lets through, but one at least. -/
theorem turns_reported {target : Nat → Option ρ}
    (hlocate : ∀ p t, p + c.binsToOperateOn ≤ c.rangeInBins → locate p = .ok t → t = target p)
    {n : Nat} (hcounted : s.peaksFound = s.targets.length) (hgoing : s.stopped = false)
    (hgoes : c.goesOn s = true) (hbelow : s.peaksFound < max 1 c.maxPeaksPerAzimuth)
    (h : Loop.turns c.goesOn (c.trip (sweep f c.rangeInBins) locate) n s = .ok s')
    (hended : c.goesOn s' = false) :
    s'.targets = (s.targets ++
      (c.reportedFrom f s.minBinToOperateUpon s.awaitingRise).filterMap target).take
        (max 1 c.maxPeaksPerAzimuth) := by
  induction n generalizing s with
  | zero =>
    obtain rfl := Except.ok.inj h
    exact absurd (hgoes.symm.trans hended) (by decide)
  | succ n ih =>
    rw [Loop.turns_succ_of_cond _ hgoes] at h
    obtain ⟨t, htrip, hrest⟩ := bind_eq_ok.mp h
    cases trip_cases htrip with
    | ended awaits hnone =>
      have hover := Bool.eq_false_iff.mp (not_goesOn_ended (c := c) s awaits)
      obtain rfl := Except.ok.inj ((Loop.turns_of_not_cond n hover).symm.trans hrest)
      rw [reportedFrom_eq_nil fun q hq => hnone q hq.from_start hq.fits hq.fires,
        List.filterMap_nil, List.append_nil, List.take_of_length_le (by omega)]
      rfl
    | found p t hp hlocated =>
      have hfive := c.five_le
      have hfits := hp.fits
      have hnext : (p != c.rangeInBins) = true := bne_iff_ne.mpr (by omega)
      obtain rfl := hlocate p t hfits hlocated
      have hmin := hp.minBin_take (target p)
      rw [reportedFrom_cons (nextPeak_iff.mp hp), List.filterMap_cons]
      cases htarget : target p with
      | none =>
        rw [htarget] at hrest hmin
        have hgoes' : c.goesOn (c.take (c.moveTo s p true) p none) = true := by
          rw [goesOn_declined, hgoing, hnext]
          rfl
        have hthen := @ih (c.take (c.moveTo s p true) p none) hcounted hgoing hgoes' hbelow hrest
        rw [hmin] at hthen
        exact hthen
      | some x =>
        rw [htarget] at hrest hmin
        have hcounted' : s.peaksFound + 1 = (s.targets ++ [x]).length := by
          rw [List.length_append, List.length_singleton, hcounted]
        have hsplit (others : List ρ) : s.targets ++ x :: others = s.targets ++ [x] ++ others :=
          (List.append_cons _ _ _)
        by_cases hmet : c.maxPeaksPerAzimuth ≤ s.peaksFound + 1
        · -- the limit is met with this target
          have hover : ¬ c.goesOn (c.take (c.moveTo s p true) p (some x)) = true := by
            change ¬ (!decide (c.maxPeaksPerAzimuth ≤ s.peaksFound + 1) && _) = true
            rw [decide_eq_true hmet]
            exact Bool.false_ne_true
          obtain rfl := Except.ok.inj ((Loop.turns_of_not_cond n hover).symm.trans hrest)
          rw [hsplit, List.take_left' (by omega)]
          rfl
        · have hgoes' : c.goesOn (c.take (c.moveTo s p true) p (some x)) = true := by
            change (!decide (c.maxPeaksPerAzimuth ≤ s.peaksFound + 1) && (p != c.rangeInBins)) =
              true
            rw [decide_eq_false hmet, hnext]
            rfl
          have hbelow' : s.peaksFound + 1 < max 1 c.maxPeaksPerAzimuth := by omega
          have hthen := @ih (c.take (c.moveTo s p true) p (some x)) hcounted' (decide_eq_false hmet)
            hgoes' hbelow' hrest
          rw [hmin] at hthen
          rw [hsplit]
          exact hthen

theorem findPeaks_reported (target : Nat → Option ρ)
    (hlocate : ∀ p t, p + c.binsToOperateOn ≤ c.rangeInBins → locate p = .ok t → t = target p)
    (h : c.findPeaks (sweep f c.rangeInBins) locate = .ok s) :
    s.targets = ((c.reported f).filterMap target).take (max 1 c.maxPeaksPerAzimuth) := by
  by_cases hgoes : c.goesOn (c.start : Search ρ) = true
  · exact turns_reported hlocate rfl rfl hgoes
      (Nat.lt_of_lt_of_le Nat.zero_lt_one (Nat.le_max_left _ _)) h (findPeaks_ended h)
  · -- there are no bins at all
    have hempty : c.rangeInBins = 0 := by
      unfold goesOn start at hgoes
      simp only [Bool.not_false, Bool.true_and, bne_iff_ne, ne_eq, not_not] at hgoes
      exact hgoes.symm
    obtain rfl := Except.ok.inj ((Loop.turns_of_not_cond _ hgoes).symm.trans h)
    unfold reported reportedFrom
    rw [hempty, List.range_zero, List.filter_nil, List.filterMap_nil, List.take_nil]
    rfl

end Scan

/-! ## What is delivered -/

variable {κ : Type} {resolve : Resolve κ} {pf : PeakFinder κ} {c : Settings κ} {f : Nat → ℚ}
  {s : Search (ExtRat × ℚ)}

namespace Settings

/-- What becomes of a bin that the search comes to. -/
def target (resolve : Resolve κ) (c : Settings κ) (f : Nat → ℚ) (p : Nat) : Option (ExtRat × ℚ) :=
  (c.resolve resolve p (c.scan.window f p)).map fun range => (range, f p)

/-- The targets of a sweep. -/
noncomputable def targets (resolve : Resolve κ) (c : Settings κ) (f : Nat → ℚ) : List Target :=
  (((c.scan.reported f).filterMap (c.target resolve f)).take
    (max 1 c.scan.maxPeaksPerAzimuth)).map fun t => ⟨t.1, t.2⟩

/-- What the callback is to receive for a sweep. One of another size has no targets. -/
noncomputable def report (resolve : Resolve κ) (c : Settings κ) (fftData : FftData) :
    Option AzimuthTarget :=
  if fftData.data.length = c.scan.rangeInBins ∧ c.targets resolve (sampleOf fftData) ≠ [] then
    some ⟨fftData.azimuth, fftData.angle, fftData.ntpSeconds, fftData.ntpSplitSeconds,
      c.targets resolve (sampleOf fftData)⟩
  else none

/-- The search comes to `q` below its limit: fewer of the bins before make a target than the limit
    lets through, which is one at least. -/
def Reaches (resolve : Resolve κ) (c : Settings κ) (f : Nat → ℚ) (q : Nat) : Prop :=
  c.scan.ComesTo f c.scan.minBinToOperateOn false q ∧
    ((c.scan.reported f).countP fun p => p < q && (c.target resolve f p).isSome) <
      max 1 c.scan.maxPeaksPerAzimuth

end Settings

theorem search_eq (h : c.search resolve (sweep f c.scan.rangeInBins) = .ok s) :
    s.targets = ((c.scan.reported f).filterMap (c.target resolve f)).take
      (max 1 c.scan.maxPeaksPerAzimuth) := by
  refine Scan.findPeaks_reported (c.target resolve f) ?_ h
  intro p t hfits hlocated
  have hfirst := (Scan.succeeds_locate_iff hfits).mp ⟨t, hlocated⟩
  exact Except.ok.inj (hlocated.symm.trans (Scan.locate_sweep hfirst hfits))

theorem search_targets (h : c.search resolve (sweep f c.scan.rangeInBins) = .ok s) :
    (s.targets.map fun t => ⟨t.1, t.2⟩) = c.targets resolve f :=
  congrArg (List.map _) (search_eq h)

/-- In ascending order, a value is among the first ones exactly if few come of what lies below. -/
theorem mem_take_filterMap_iff {β : Type} {g : Nat → Option β} {l : List Nat} {x : β}
    (hsorted : l.Pairwise (· < ·)) (n : Nat) :
    x ∈ (l.filterMap g).take n ↔
      ∃ q ∈ l, g q = some x ∧ (l.countP fun p => p < q && (g p).isSome) < n := by
  induction l generalizing n with
  | nil => simp
  | cons a l ih =>
    obtain ⟨hbelow, hsorted⟩ := List.pairwise_cons.mp hsorted
    have hfirst : ((a :: l).countP fun p => p < a && (g p).isSome) = 0 := by
      rw [List.countP_eq_zero]
      intro p hp
      rcases List.mem_cons.mp hp with rfl | hp
      · simp
      · have hlt := hbelow p hp
        simp [Nat.not_lt_of_lt hlt]
    have hlater {q : Nat} (hq : q ∈ l) : ((a :: l).countP fun p => p < q && (g p).isSome) =
        (l.countP fun p => p < q && (g p).isSome) + (if (g a).isSome then 1 else 0) := by
      rw [List.countP_cons, decide_eq_true (hbelow q hq), Bool.true_and]
    rw [List.exists_mem_cons_iff, hfirst]
    cases hga : g a with
    | none =>
      rw [List.filterMap_cons_none hga, ih hsorted, or_iff_right fun h => nomatch h.1]
      refine exists_congr fun q => and_congr_right fun hq => ?_
      rw [hlater hq, hga]
      rfl
    | some y =>
      rw [List.filterMap_cons_some hga]
      cases n with
      | zero => simp
      | succ n =>
        rw [List.take_succ_cons, List.mem_cons, ih hsorted, Option.some.injEq,
          and_iff_left n.succ_pos, eq_comm]
        refine or_congr_right (exists_congr fun q => and_congr_right fun hq => ?_)
        rw [hlater hq, hga, Option.isSome_some, if_pos rfl, Nat.add_lt_add_iff_right]

/-- The targets come of the bins that the search reaches. -/
theorem mem_targets_iff (h : c.search resolve (sweep f c.scan.rangeInBins) = .ok s)
    (t : ExtRat × ℚ) :
    t ∈ s.targets ↔ ∃ q, c.Reaches resolve f q ∧ c.target resolve f q = some t := by
  have hsorted : (c.scan.reported f).Pairwise (· < ·) := Scan.pairwise_reportedFrom _ _ _ _
  rw [search_eq h, mem_take_filterMap_iff hsorted]
  refine exists_congr fun q => ?_
  unfold Settings.Reaches
  rw [Scan.reported, Scan.mem_reportedFrom, and_assoc]
  exact and_congr_right fun _ => and_comm

section Handler

theorem samplesOf_eq (fftData : FftData) :
    samplesOf fftData = sweep (sampleOf fftData) fftData.data.length := by
  have hlength : (samplesOf fftData).length = fftData.data.length := List.length_map _
  rw [← hlength]
  refine List.ext_getElem ?_ fun i hi _ => ?_
  · rw [sweep, List.length_map, List.length_range]
  · simp only [sweep, sampleOf, List.getElem_map, List.getElem_range]
    exact (List.getD_eq_getElem _ _ hi).symm

/-- Without a buffer each sweep of the right size is searched at once. -/
theorem collect_off (d : Decibels) (fftData : FftData) (hc : pf.settings = some c)
    (hmode : c.bufferMode = .off) :
    pf.collect d fftData = .ok (pf, if fftData.data.length = c.scan.rangeInBins then
      some (sweep (sampleOf fftData) c.scan.rangeInBins) else none) := by
  have hlength : (samplesOf fftData).length = fftData.data.length := List.length_map _
  rw [collect_eq hc]
  unfold Settings.collect
  dsimp only
  by_cases hsize : fftData.data.length = c.scan.rangeInBins
  · rw [if_neg (not_not.mpr (hlength.trans hsize)), if_pos hmode, if_pos hsize, samplesOf_eq, hsize]
  · rw [if_pos fun h => hsize (hlength.symm.trans h), if_neg hsize]

theorem findPeaks_map (resolve : Resolve κ) (fftData : FftData) (data : List ℚ)
    (hc : pf.settings = some c) :
    pf.findPeaks resolve fftData data = (c.search resolve data).map fun s =>
      ({ pf with awaitingRise := s.awaitingRise }, pf.deliver fftData s) := by
  cases hsearch : c.search resolve data with
  | ok s => exact findPeaks_eq hc hsearch
  | error e =>
    unfold findPeaks
    rw [hc]
    dsimp only
    rw [hsearch]
    rfl

/-- The callback is called if there is a target. -/
theorem deliver_report {fftData : FftData} (hsize : fftData.data.length = c.scan.rangeInBins)
    (h : c.search resolve (sweep (sampleOf fftData) c.scan.rangeInBins) = .ok s) :
    pf.deliver fftData s = if pf.targetCallback = true then c.report resolve fftData else none := by
  have htargets := search_targets h
  have hcounted := (Scan.findPeaks_targets h).counted
  have hpos : 0 < s.peaksFound ↔ c.targets resolve (sampleOf fftData) ≠ [] := by
    rw [hcounted, ← htargets, ne_eq, List.map_eq_nil_iff]
    exact List.length_pos_iff
  unfold deliver Settings.report
  rw [htargets]
  by_cases hcallback : pf.targetCallback = true
  · rw [if_pos hcallback]
    exact if_congr ⟨fun h => ⟨hsize, hpos.mp h.1⟩, fun h => ⟨hpos.mpr h.2, hcallback⟩⟩ rfl rfl
  · rw [if_neg hcallback, if_neg fun h => hcallback h.2]

/-- **The handler without a buffer.** It reads no sample outside the sweep exactly if no peak
    lies too near to its start, and then it delivers the targets of the sweep, if there are any
    and somebody listens. -/
theorem fftDataHandler_off (d : Decibels) (resolve : Resolve κ) (fftData : FftData)
    (hc : pf.settings = some c) (hmode : c.bufferMode = .off) :
    (Succeeds (pf.fftDataHandler d resolve fftData) ↔
        (fftData.data.length = c.scan.rangeInBins → WindowsInside c.scan (sampleOf fftData))) ∧
      ∀ r, pf.fftDataHandler d resolve fftData = .ok r →
        r.1 = { pf with awaitingRise := r.1.awaitingRise } ∧
        r.2 = if pf.targetCallback = true then c.report resolve fftData else none := by
  have hcollect := collect_off d fftData hc hmode
  by_cases hsize : fftData.data.length = c.scan.rangeInBins
  · have hhandler : pf.fftDataHandler d resolve fftData =
        pf.findPeaks resolve fftData (sweep (sampleOf fftData) c.scan.rangeInBins) := by
      unfold fftDataHandler
      rw [hcollect, if_pos hsize]
      rfl
    rw [hhandler, findPeaks_map _ _ _ hc]
    refine ⟨?_, fun r hr => ?_⟩
    · rw [forall_prop_of_true hsize, CheckedView.succeeds_map]
      exact succeeds_search_iff resolve c _
    · obtain ⟨s, hs, rfl⟩ := map_eq_ok.mp hr
      exact ⟨rfl, deliver_report hsize hs⟩
  · have hhandler : pf.fftDataHandler d resolve fftData = .ok (pf, none) := by
      unfold fftDataHandler
      rw [hcollect, if_neg hsize]
      rfl
    rw [hhandler]
    refine ⟨iff_of_true ⟨_, rfl⟩ fun h => absurd h hsize, fun r hr => ?_⟩
    obtain rfl := Except.ok.inj hr
    have hnone : c.report resolve fftData = none := if_neg fun h => hsize h.1
    rw [hnone, ite_self]
    exact ⟨rfl, rfl⟩

end Handler

/-- One echo, around bin 6. -/
def echo : FftData := ⟨.finite 0, 0, 0, 0, 0, [0, 0, 0, 0, 0, 1, 4, 1, 0, 0, 0, 0]⟩

/-- Twelve bins, and every sweep is searched. -/
def unbuffered : Parameters Ranging := { inPairs 12 with mode := .off }

theorem fftDataHandler_off_echo :
    ∃ r, ((new.configure unbuffered).setTargetCallback true).fftDataHandler notAveraging
          Ranging.resolve echo = .ok r ∧
        r.2 = unbuffered.settings.report Ranging.resolve echo ∧
        delivered r = [⟨.finite 6, 4⟩] := by
  have hdelivered : (((new.configure unbuffered).setTargetCallback true).fftDataHandler
      notAveraging Ranging.resolve echo).map delivered = .ok [⟨.finite 6, 4⟩] := by
    decide +kernel
  obtain ⟨r, hr, htargets⟩ := map_eq_ok.mp hdelivered
  exact ⟨r, hr, ((fftDataHandler_off (c := unbuffered.settings) notAveraging
    Ranging.resolve echo rfl rfl).2 r hr).2, htargets⟩

/-! ## Ranges in exact numbers -/

/-- The ranges of the targets that are delivered. -/
def ranges (r : PeakFinder κ × Option AzimuthTarget) : List ExtRat :=
  r.2.toList.flatMap fun azimuth => azimuth.targets.map Target.range

theorem mem_ranges_iff (pf : PeakFinder κ) (fftData : FftData) {s : Search (ExtRat × ℚ)}
    (hcounted : s.peaksFound = s.targets.length) (pf' : PeakFinder κ) (range : ExtRat) :
    range ∈ ranges (pf', pf.deliver fftData s) ↔
      pf.targetCallback = true ∧ ∃ power, (range, power) ∈ s.targets := by
  unfold ranges deliver
  split
  · rename_i hdelivers
    rw [and_iff_right hdelivers.2]
    simp
  · rename_i hnot
    refine iff_of_false List.not_mem_nil fun h => hnot ⟨?_, h.1⟩
    obtain ⟨-, power, hmem⟩ := h
    rw [hcounted]
    exact List.length_pos_of_mem hmem

section Exact

variable {c : Settings Ranging}

/-- All targets are plausible exactly if no window that the search reaches is degenerate. -/
theorem targets_plausible_iff (hres : 0 < c.ranging.rangeResolutionMetres)
    (h : c.search Ranging.resolve (sweep f c.scan.rangeInBins) = .ok s) :
    (∀ t ∈ s.targets, c.scan.Plausible c.ranging t.1) ↔
      ∀ q, c.Reaches Ranging.resolve f q →
        ¬ c.scan.Degenerate c.ranging (c.scan.window f q) := by
  constructor
  · intro hall q hq hdegenerate
    have hmem : (ExtRat.nan, f q) ∈ s.targets := by
      refine (mem_targets_iff h _).mpr ⟨q, hq, ?_⟩
      exact congrArg (Option.map _) (Scan.resolve_of_degenerate hres hdegenerate)
    obtain ⟨_, hnan, -⟩ := hall _ hmem
    exact nomatch hnan
  · intro hregular t ht
    obtain ⟨q, hq, htarget⟩ := (mem_targets_iff h t).mp ht
    obtain ⟨range, hrange, rfl⟩ := Option.map_eq_some_iff.mp htarget
    exact Scan.plausible_of_resolve hres (hregular q hq) hrange

/-- **Every target is plausible**, exactly if no window begins before the sweep, and no window that
    the search reaches is degenerate, or there is nobody to deliver to. -/
theorem delivered_plausible_iff (pf : PeakFinder Ranging) {p : Parameters Ranging}
    (hres : 0 < p.ranging.rangeResolutionMetres) (fftData : FftData) (f : Nat → ℚ) :
    (∃ r, (pf.configure p).findPeaks Ranging.resolve fftData (sweep f p.rangeInBins.toNat) =
        .ok r ∧ ∀ range ∈ ranges r, p.scan.Plausible p.ranging range) ↔
      WindowsInside p.scan f ∧ (pf.targetCallback = false ∨
        ∀ q, p.settings.Reaches Ranging.resolve f q →
          ¬ p.scan.Degenerate p.ranging (p.scan.window f q)) := by
  have hmap : (pf.configure p).findPeaks Ranging.resolve fftData (sweep f p.rangeInBins.toNat) =
      (p.settings.search Ranging.resolve (sweep f p.rangeInBins.toNat)).map _ :=
    findPeaks_map Ranging.resolve fftData _ rfl
  have hinside : Succeeds (p.settings.search Ranging.resolve (sweep f p.rangeInBins.toNat)) ↔
      WindowsInside p.scan f := succeeds_search_iff Ranging.resolve p.settings f
  rw [hmap, ← hinside]
  constructor
  · intro h
    obtain ⟨r, hr, hall⟩ := h
    obtain ⟨s, hs, rfl⟩ := map_eq_ok.mp hr
    have hmem := mem_ranges_iff (pf.configure p) fftData (Scan.findPeaks_targets hs).counted
      { pf.configure p with awaitingRise := s.awaitingRise }
    refine ⟨⟨s, hs⟩, or_iff_not_imp_left.mpr fun hcallback => ?_⟩
    refine (targets_plausible_iff (c := p.settings) hres hs).mp fun t ht => ?_
    exact hall t.1 ((hmem t.1).mpr ⟨(Bool.not_eq_false _).mp hcallback, t.2, ht⟩)
  · rintro ⟨⟨s, hs⟩, hcond⟩
    have hmem := mem_ranges_iff (pf.configure p) fftData (Scan.findPeaks_targets hs).counted
      { pf.configure p with awaitingRise := s.awaitingRise }
    refine ⟨_, map_eq_ok.mpr ⟨s, hs, rfl⟩, fun range hrange => ?_⟩
    obtain ⟨hcallback, power, ht⟩ := (hmem range).mp hrange
    rcases hcond with hnone | hregular
    · exact nomatch hnone.symm.trans hcallback
    · exact (targets_plausible_iff (c := p.settings) hres hs).mpr hregular _ ht

end Exact

/-- One echo alone: no other bin is above the threshold. -/
theorem delivered_regular : ∃ r,
    ((new.setTargetCallback true).configure (inPairs 12)).findPeaks Ranging.resolve (silence 12)
        (sweep (around6 0 1 4 1 0) 12) = .ok r ∧
      ∀ range ∈ ranges r, (inPairs 12).scan.Plausible ⟨1, 0, 1⟩ range := by
  refine (delivered_plausible_iff (p := inPairs 12) (new.setTargetCallback true) (by decide)
    (silence 12) (around6 0 1 4 1 0)).mpr ⟨fun q hmin _ _ => hmin, .inr fun q hq h => ?_⟩
  obtain ⟨-, hfits, hpeak⟩ := hq.1.peak
  have hall : ∀ q < 8, 1 < around6 0 1 4 1 0 q ∧
      around6 0 1 4 1 0 (q + 1) < around6 0 1 4 1 0 q → q = 6 := by
    decide +kernel
  obtain rfl := hall q (by change q + 5 ≤ 12 at hfits; omega) hpeak
  exact absurd h.1 (by decide +kernel)

/-- A window whose fitted slope and curvature are both zero makes a target whose range is not a
    number. -/
theorem delivered_nan :
    (∃ r, ((new.setTargetCallback true).configure (inPairs 12)).findPeaks Ranging.resolve
        (silence 12) (sweep (around6 1 0 2 0 1) 12) = .ok r ∧ ranges r = [.nan]) ∧
    ¬ (inPairs 12).scan.Plausible ⟨1, 0, 1⟩ .nan := by
  constructor
  · have hranges : (((new.setTargetCallback true).configure (inPairs 12)).findPeaks Ranging.resolve
        (silence 12) (sweep (around6 1 0 2 0 1) 12)).map ranges = .ok [.nan] := by
      decide +kernel
    exact map_eq_ok.mp hranges
  · intro h
    obtain ⟨_, hnan, -⟩ := h
    exact nomatch hnan

end PeakFinder

end Navtech
